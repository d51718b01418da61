namespace Switchboard

namespace TapeMachine

-- Adds two and five and prints the digit of the sum.
def adder : String := "\n".intercalate [
  "",
  "++       cell c0 = 2",
  "> +++++  cell c1 = 5",
  "",
  "[        start the loop with the pointer on the counter in c1",
  "< +      add 1 to c0",
  "> -      subtract 1 from c1",
  "]        end the loop with the pointer on the counter",
  "",
  "c0 now holds 7 and c1 holds 0 but printing needs the ASCII code",
  "so add 48 using a loop that runs 8 times adding 6 each time",
  "",
  "++++ ++++  c1 = 8 as the new loop counter",
  "[",
  "< +++ +++  add 6 to c0",
  "> -        subtract 1 from c1",
  "]",
  "< .        print c0 which now holds 55 or the digit 7",
  ""]

-- Prints a greeting and ends the line.
def greeting : String := "\n".intercalate [
  "",
  "[ A leading loop acts as a comment block: the first cell starts at zero so",
  "  the whole loop is skipped. Operator characters such as . or + in here are",
  "  never run but any [nested] brackets must still balance.",
  "]",
  "++++++++               set cell 0 to 8",
  "[",
  "    >++++               add 4 to cell 1",
  "    [                   cell 1 is cleared by this loop",
  "        >++             add 2 to cell 2",
  "        >+++            add 3 to cell 3",
  "        >+++            add 3 to cell 4",
  "        >+              add 1 to cell 5",
  "        <<<<-           decrement the counter in cell 1",
  "    ]                   runs 4 times",
  "    >+                  add 1 to cell 2",
  "    >+                  add 1 to cell 3",
  "    >-                  subtract 1 from cell 4",
  "    >>+                 add 1 to cell 6",
  "    [<]                 move back to the first zero cell which is cell 1",
  "    <-                  decrement the counter in cell 0",
  "]                       runs 8 times",
  "",
  "Cells now hold 0 0 72 104 88 32 8 with the pointer on cell 0",
  "",
  ">>.                     cell 2 is 72 or H",
  ">---.                   cell 3 minus 3 is 101 or e",
  "+++++++..+++.           l l o from cell 3",
  ">>.                     cell 5 is 32 for the space",
  "<-.                     cell 4 minus 1 is 87 or W",
  "<.                      cell 3 is o from the end of Hello",
  "+++.------.--------.    r l d from cell 3",
  ">>+.                    cell 5 plus 1 is the exclamation mark",
  ">++.                    cell 6 plus 2 is the newline",
  ""]

end TapeMachine

end Switchboard
