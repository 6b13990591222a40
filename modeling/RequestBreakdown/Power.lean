/-!
# Powers

Powers of two and of ten, the bases that numbers are held and written in.
-/

namespace RequestBreakdown

def twoTo (n : Nat) : Nat := Nat.pow 2 n

def tenTo (n : Nat) : Nat := Nat.pow 10 n

theorem twoTo_pos (n : Nat) : 0 < twoTo n := Nat.pow_pos (by decide)

end RequestBreakdown
