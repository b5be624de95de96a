import Us3Turbo.Data.Crc

/-! # `backend/src/common/crc32c.cpp` -/

namespace Us3Turbo.Backend

open Us3Turbo.Data

def kPoly : UInt32 := 0x82F63B78

def kTable : Fin 256 → UInt32 := Crc.makeTable kPoly

def crc32cInit : UInt32 := 0xFFFFFFFF

def crc32cUpdate (state : UInt32) (data : List UInt8) : UInt32 := Crc.update kTable state data

def crc32cFinalize (state : UInt32) : UInt32 := state ^^^ 0xFFFFFFFF

def crc32c (data : List UInt8) : UInt32 := crc32cFinalize (crc32cUpdate crc32cInit data)

end Us3Turbo.Backend
