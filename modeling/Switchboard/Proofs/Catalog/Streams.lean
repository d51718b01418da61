import Switchboard.Proofs.Catalog.Codec
import Switchboard.Proofs.Table.Extension

namespace Switchboard

variable {α β ε : Type} {code : α → Except ε β}

-- A stream is coded item by item.
theorem mapM_eq_ok_map {items : List α} {value : α → β}
    (h : ∀ item ∈ items, code item = .ok (value item)) :
    items.mapM code = .ok (items.map value) := by
  induction items with
  | nil => rfl
  | cons item rest ih =>
      obtain ⟨hitem, hrest⟩ := List.forall_mem_cons.mp h
      rw [List.mapM_cons, hitem, ih hrest]
      rfl

-- The first item that is refused settles the answer, whatever follows it.
theorem mapM_refused {before : List α} {item : α} {fault : ε}
    (hbefore : ∀ other ∈ before, ∃ value, code other = .ok value)
    (hitem : code item = .error fault) (after : List α) :
    (before ++ item :: after).mapM code = .error fault := by
  induction before with
  | nil =>
      rw [List.nil_append, List.mapM_cons, hitem]
      rfl
  | cons first rest ih =>
      obtain ⟨⟨value, hfirst⟩, hrest⟩ := List.forall_mem_cons.mp hbefore
      rw [List.cons_append, List.mapM_cons, hfirst, ih hrest]
      rfl

-- What comes out of a stream comes from its items.
theorem exists_of_mem_mapM {items : List α} {values : List β} (h : items.mapM code = .ok values)
    {value : β} (hmem : value ∈ values) : ∃ item ∈ items, code item = .ok value := by
  induction items generalizing values with
  | nil =>
      cases h
      cases hmem
  | cons item rest ih =>
      rw [List.mapM_cons] at h
      cases hfirst : code item with
      | error fault =>
          rw [hfirst] at h
          cases h
      | ok first =>
          rw [hfirst] at h
          cases hrest : rest.mapM code with
          | error fault =>
              rw [hrest] at h
              cases h
          | ok others =>
              rw [hrest] at h
              cases h
              rcases List.mem_cons.mp hmem with rfl | hmem
              · exact ⟨item, List.mem_cons_self, hfirst⟩
              · obtain ⟨other, hother, hcode⟩ := ih hrest hmem
                exact ⟨other, List.mem_cons_of_mem _ hother, hcode⟩

namespace Catalog

-- The id of a token is its place among some tokens, and there are ids enough for all of them.
structure Numbers (catalog : Catalog) (tokens : List String) : Prop where
  fits : tokens.length ≤ UInt16.size
  encode : ∀ {token id}, catalog.encode token = .ok id ↔ tokens[id.toNat]? = some token
  decode : ∀ {token id}, catalog.decode id = .ok token ↔ tokens[id.toNat]? = some token

theorem numbers_ofActions {H : Type} {set : MethodSet H} {methods : List (Method H)}
    (h : set.Binds methods) (hlimit : (Method.actionsOf methods).length ≤ catalogLimit) :
    (ofActions set.actions).Numbers ((Method.actionsOf methods).map Method.token) where
  fits := by
    rw [List.length_map]
    exact hlimit
  encode := encode_eq_ok_iff_getElem? h hlimit
  decode := decode_eq_ok_iff h

namespace Numbers

variable {catalog : Catalog} {tokens : List String} (h : catalog.Numbers tokens)

include h

theorem encode_of_mem {token : String} (hmem : token ∈ tokens) :
    catalog.encode token = .ok (UInt16.ofNat (tokens.idxOf token)) := by
  have hlt := Nat.lt_of_lt_of_le (List.idxOf_lt_length_of_mem hmem) h.fits
  rw [h.encode, UInt16.toNat_ofNat_of_lt' hlt, List.getElem?_idxOf hmem]

theorem encode_of_not_mem {token : String} (hmem : token ∉ tokens) :
    catalog.encode token = .error (.unknownToken token) := by
  rw [encode_eq_error_iff]
  intro id hid
  exact hmem (List.mem_of_getElem? (h.encode.mp hid))

theorem decode_of_lt {id : UInt16} (hlt : id.toNat < tokens.length) :
    catalog.decode id = .ok tokens[id.toNat] := h.decode.mpr (List.getElem?_eq_getElem hlt)

theorem decode_of_le {id : UInt16} (hle : tokens.length ≤ id.toNat) :
    catalog.decode id = .error (.unknownId id) := by
  rw [decode_eq_error_iff]
  intro token htoken
  rw [h.decode, List.getElem?_eq_none hle] at htoken
  cases htoken

-- Streams

theorem encode_stream {stream : List String} (hstream : ∀ token ∈ stream, token ∈ tokens) :
    stream.mapM catalog.encode =
      .ok (stream.map fun token => UInt16.ofNat (tokens.idxOf token)) :=
  mapM_eq_ok_map fun token hmem => h.encode_of_mem (hstream token hmem)

theorem decode_stream {ids : List UInt16} (hids : ∀ id ∈ ids, id.toNat < tokens.length) :
    ∃ stream, ids.mapM catalog.decode = .ok stream := by
  refine ⟨ids.map fun id => tokens[id.toNat]?.getD "", mapM_eq_ok_map fun id hmem => ?_⟩
  rw [h.decode_of_lt (hids id hmem), List.getElem?_eq_getElem (hids id hmem), Option.getD_some]

theorem mem_of_decode_stream {ids : List UInt16} {stream : List String}
    (hstream : ids.mapM catalog.decode = .ok stream) {token : String} (hmem : token ∈ stream) :
    token ∈ tokens := by
  obtain ⟨id, -, hid⟩ := exists_of_mem_mapM hstream hmem
  exact List.mem_of_getElem? (h.decode.mp hid)

theorem encode_stream_refused {before : List String} {token : String}
    (hbefore : ∀ other ∈ before, other ∈ tokens) (htoken : token ∉ tokens) (after : List String) :
    (before ++ token :: after).mapM catalog.encode = .error (.unknownToken token) :=
  mapM_refused (fun other hmem => ⟨_, h.encode_of_mem (hbefore other hmem)⟩)
    (h.encode_of_not_mem htoken) after

theorem decode_stream_refused {before : List UInt16} {id : UInt16}
    (hbefore : ∀ other ∈ before, other.toNat < tokens.length) (hid : tokens.length ≤ id.toNat)
    (after : List UInt16) :
    (before ++ id :: after).mapM catalog.decode = .error (.unknownId id) :=
  mapM_refused (fun other hmem => ⟨_, h.decode_of_lt (hbefore other hmem)⟩)
    (h.decode_of_le hid) after

variable {other : Catalog} (hother : other.Numbers tokens)

include hother

-- All catalogs of the same tokens read what one of them wrote.
theorem decode_of_encode_stream {stream : List String} {ids : List UInt16}
    (hids : stream.mapM catalog.encode = .ok ids) : ids.mapM other.decode = .ok stream :=
  mapM_reads_back (fun _ _ hid => hother.decode.mpr (h.encode.mp hid)) hids

theorem encode_of_decode_stream {stream : List String} {ids : List UInt16}
    (hstream : ids.mapM catalog.decode = .ok stream) : stream.mapM other.encode = .ok ids :=
  mapM_reads_back (fun _ _ htoken => hother.encode.mpr (h.decode.mp htoken)) hstream

end Numbers

end Catalog

end Switchboard
