import LineScript.World.Draws
import LineScript.World.Files
import LineScript.World.Network

/-!
The world outside a program, as a value: its files, the network, and the random draws to come.
-/

namespace LineScript

structure World where
  files : Files
  network : Network
  draws : Draws

end LineScript
