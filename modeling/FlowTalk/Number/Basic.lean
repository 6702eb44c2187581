namespace FlowTalk

/-- A number: an integer of any size, or a binary floating-point number. -/
inductive Number where
  | int (n : Int)
  | float (x : Float)

namespace Number

def infinity : Float := 1.0 / 0.0

def notNumber : Float := 0.0 / 0.0

end Number

end FlowTalk
