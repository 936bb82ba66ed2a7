namespace SeriesCluster.Crc32

/-- The polynomial without its highest term, its coefficients from low to high. -/
def polynomial : UInt32 := 0xedb88320

def shift (c : UInt32) : UInt32 := if c &&& 1 = 1 then (c >>> 1) ^^^ polynomial else c >>> 1

def shifts : Nat → UInt32 → UInt32
  | 0, c => c
  | n + 1, c => shifts n (shift c)

def step (c : UInt32) (b : UInt8) : UInt32 := shifts 8 (c ^^^ UInt32.ofNat b.toNat)

def ofBytes (bytes : List UInt8) : UInt32 := bytes.foldl step 0xffffffff ^^^ 0xffffffff

example : ofBytes [49, 50, 51, 52, 53, 54, 55, 56, 57] = 0xcbf43926 := by decide +kernel

end SeriesCluster.Crc32
