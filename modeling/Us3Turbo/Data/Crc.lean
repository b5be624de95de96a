import Mathlib.Logic.Function.Iterate

/-! # Table-driven reflected CRCs of 32 bits -/

namespace Us3Turbo.Data.Crc

def shift (poly c : UInt32) : UInt32 :=
  if c &&& 1 ≠ 0 then (c >>> 1) ^^^ poly else c >>> 1

/-- The word of each octet: what eight shifts make of it. -/
def makeTable (poly : UInt32) (i : Fin 256) : UInt32 := (shift poly)^[8] (UInt32.ofNat i)

def update (table : Fin 256 → UInt32) (state : UInt32) (data : List UInt8) : UInt32 :=
  data.foldl (fun state byte =>
    (state >>> 8) ^^^ table (Fin.ofNat 256 ((state ^^^ byte.toUInt32) &&& 0xFF).toNat)) state

end Us3Turbo.Data.Crc
