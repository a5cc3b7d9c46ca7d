/-!
How many values fit in machine words.
-/

namespace WordGame.Word

def size32 : Nat := 4294967296

def size64 : Nat := 18446744073709551616

/-- The number of values of sixty-four bits with the highest one unset: signed words go from minus
this number to one below it. -/
def half64 : Nat := 9223372036854775808

end WordGame.Word
