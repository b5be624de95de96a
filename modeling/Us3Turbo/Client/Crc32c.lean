import Us3Turbo.Data.Crc

/-! # `client/src/data/crc32c.cpp` -/

namespace Us3Turbo.Client

open Us3Turbo.Data

def kPoly : UInt32 := 0x82F63B78

def kTable : Fin 256 → UInt32 := Crc.makeTable kPoly

def crc32cInit : UInt32 := 0xFFFFFFFF

def crc32cUpdate (state : UInt32) (data : List UInt8) : UInt32 := Crc.update kTable state data

def crc32cFinalize (state : UInt32) : UInt32 := state ^^^ 0xFFFFFFFF

def crc32c (data : List UInt8) : UInt32 := crc32cFinalize (crc32cUpdate crc32cInit data)

example : crc32c [49, 50, 51, 52, 53, 54, 55, 56, 57] = 0xE3069283 := by decide

end Us3Turbo.Client
