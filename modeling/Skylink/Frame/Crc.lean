import Skylink.Frame.Model
import Skylink.Library.ArrayLoop
import Skylink.Library.ReflectedCrc

/-!
# The checksum of a frame

CRC-32 by a table, a byte at a time, and the frame that carries it in its last four bytes.
Both sides of a link leave it out at present: the calls in `sky_tx` and `sky_rx` are disabled.
-/

namespace Skylink

open ReflectedCrc

def crc32Init : UInt32 := 0xffffffff

def crc32Inverse : UInt32 := 0xffffffff

def crc32Table : List UInt32 :=
  [0x00000000, 0x77073096, 0xee0e612c, 0x990951ba, 0x076dc419, 0x706af48f, 0xe963a535, 0x9e6495a3,
   0x0edb8832, 0x79dcb8a4, 0xe0d5e91e, 0x97d2d988, 0x09b64c2b, 0x7eb17cbd, 0xe7b82d07, 0x90bf1d91,
   0x1db71064, 0x6ab020f2, 0xf3b97148, 0x84be41de, 0x1adad47d, 0x6ddde4eb, 0xf4d4b551, 0x83d385c7,
   0x136c9856, 0x646ba8c0, 0xfd62f97a, 0x8a65c9ec, 0x14015c4f, 0x63066cd9, 0xfa0f3d63, 0x8d080df5,
   0x3b6e20c8, 0x4c69105e, 0xd56041e4, 0xa2677172, 0x3c03e4d1, 0x4b04d447, 0xd20d85fd, 0xa50ab56b,
   0x35b5a8fa, 0x42b2986c, 0xdbbbc9d6, 0xacbcf940, 0x32d86ce3, 0x45df5c75, 0xdcd60dcf, 0xabd13d59,
   0x26d930ac, 0x51de003a, 0xc8d75180, 0xbfd06116, 0x21b4f4b5, 0x56b3c423, 0xcfba9599, 0xb8bda50f,
   0x2802b89e, 0x5f058808, 0xc60cd9b2, 0xb10be924, 0x2f6f7c87, 0x58684c11, 0xc1611dab, 0xb6662d3d,
   0x76dc4190, 0x01db7106, 0x98d220bc, 0xefd5102a, 0x71b18589, 0x06b6b51f, 0x9fbfe4a5, 0xe8b8d433,
   0x7807c9a2, 0x0f00f934, 0x9609a88e, 0xe10e9818, 0x7f6a0dbb, 0x086d3d2d, 0x91646c97, 0xe6635c01,
   0x6b6b51f4, 0x1c6c6162, 0x856530d8, 0xf262004e, 0x6c0695ed, 0x1b01a57b, 0x8208f4c1, 0xf50fc457,
   0x65b0d9c6, 0x12b7e950, 0x8bbeb8ea, 0xfcb9887c, 0x62dd1ddf, 0x15da2d49, 0x8cd37cf3, 0xfbd44c65,
   0x4db26158, 0x3ab551ce, 0xa3bc0074, 0xd4bb30e2, 0x4adfa541, 0x3dd895d7, 0xa4d1c46d, 0xd3d6f4fb,
   0x4369e96a, 0x346ed9fc, 0xad678846, 0xda60b8d0, 0x44042d73, 0x33031de5, 0xaa0a4c5f, 0xdd0d7cc9,
   0x5005713c, 0x270241aa, 0xbe0b1010, 0xc90c2086, 0x5768b525, 0x206f85b3, 0xb966d409, 0xce61e49f,
   0x5edef90e, 0x29d9c998, 0xb0d09822, 0xc7d7a8b4, 0x59b33d17, 0x2eb40d81, 0xb7bd5c3b, 0xc0ba6cad,
   0xedb88320, 0x9abfb3b6, 0x03b6e20c, 0x74b1d29a, 0xead54739, 0x9dd277af, 0x04db2615, 0x73dc1683,
   0xe3630b12, 0x94643b84, 0x0d6d6a3e, 0x7a6a5aa8, 0xe40ecf0b, 0x9309ff9d, 0x0a00ae27, 0x7d079eb1,
   0xf00f9344, 0x8708a3d2, 0x1e01f268, 0x6906c2fe, 0xf762575d, 0x806567cb, 0x196c3671, 0x6e6b06e7,
   0xfed41b76, 0x89d32be0, 0x10da7a5a, 0x67dd4acc, 0xf9b9df6f, 0x8ebeeff9, 0x17b7be43, 0x60b08ed5,
   0xd6d6a3e8, 0xa1d1937e, 0x38d8c2c4, 0x4fdff252, 0xd1bb67f1, 0xa6bc5767, 0x3fb506dd, 0x48b2364b,
   0xd80d2bda, 0xaf0a1b4c, 0x36034af6, 0x41047a60, 0xdf60efc3, 0xa867df55, 0x316e8eef, 0x4669be79,
   0xcb61b38c, 0xbc66831a, 0x256fd2a0, 0x5268e236, 0xcc0c7795, 0xbb0b4703, 0x220216b9, 0x5505262f,
   0xc5ba3bbe, 0xb2bd0b28, 0x2bb45a92, 0x5cb36a04, 0xc2d7ffa7, 0xb5d0cf31, 0x2cd99e8b, 0x5bdeae1d,
   0x9b64c2b0, 0xec63f226, 0x756aa39c, 0x026d930a, 0x9c0906a9, 0xeb0e363f, 0x72076785, 0x05005713,
   0x95bf4a82, 0xe2b87a14, 0x7bb12bae, 0x0cb61b38, 0x92d28e9b, 0xe5d5be0d, 0x7cdcefb7, 0x0bdbdf21,
   0x86d3d2d4, 0xf1d4e242, 0x68ddb3f8, 0x1fda836e, 0x81be16cd, 0xf6b9265b, 0x6fb077e1, 0x18b74777,
   0x88085ae6, 0xff0f6a70, 0x66063bca, 0x11010b5c, 0x8f659eff, 0xf862ae69, 0x616bffd3, 0x166ccf45,
   0xa00ae278, 0xd70dd2ee, 0x4e048354, 0x3903b3c2, 0xa7672661, 0xd06016f7, 0x4969474d, 0x3e6e77db,
   0xaed16a4a, 0xd9d65adc, 0x40df0b66, 0x37d83bf0, 0xa9bcae53, 0xdebb9ec5, 0x47b2cf7f, 0x30b5ffe9,
   0xbdbdf21c, 0xcabac28a, 0x53b39330, 0x24b4a3a6, 0xbad03605, 0xcdd70693, 0x54de5729, 0x23d967bf,
   0xb3667a2e, 0xc4614ab8, 0x5d681b02, 0x2a6f2b94, 0xb40bbe37, 0xc30c8ea1, 0x5a05df1b, 0x2d02ef8d]

/-- The turn of the loop for one byte of the buffer. -/
def crc32Byte (crc : UInt32) (byte : UInt8) : UInt32 :=
  (crc >>> 8) ^^^ crc32Table.getD ((crc ^^^ byte.toUInt32) &&& 0xff).toNat 0

def skyCrc32 (buf : Bytes) : UInt32 := buf.foldl crc32Byte crc32Init ^^^ crc32Inverse

/-- `sizeof(uint32_t)`. -/
def crc32Size : Nat := 4

/-- `none` where the code leaves `raw`. -/
def skyExtendWithCrc32 (frame : SkyRadioFrame) : Option (SkyRadioFrame × SkyRet) :=
  if skyFrameMaxLen - crc32Size < frame.length then some (frame, .crcInvalidLength)
  else do
    let data ← ArrayLoop.slice frame.raw 0 frame.length
    let crc := skyHton32 (skyCrc32 data)
    let raw ← ArrayLoop.copyIn frame.raw frame.length (storeU32 crc)
    some ({ frame with raw := raw, length := frame.length + crc32Size }, 0)

def skyCheckCrc32 (frame : SkyRadioFrame) : Option (SkyRadioFrame × SkyRet) :=
  if frame.length < crc32Size then some (frame, .crcInvalidLength)
  else do
    let dataLength := frame.length - crc32Size
    let checksum ← ArrayLoop.slice frame.raw dataLength crc32Size
    let received := skyNtoh32 (loadU32 checksum)
    let data ← ArrayLoop.slice frame.raw 0 dataLength
    let calculated := skyCrc32 data
    if received ≠ calculated then some (frame, .crcInvalidChecksum)
    else some ({ frame with length := dataLength }, 0)

/-! ## The checksum bit by bit -/

/-- The polynomial `0x04C11DB7` with its bits reflected. -/
def crc32Polynomial : BitVec 32 := 0xEDB88320#32

/-- The bits of a buffer in the order in which the checksum takes them. -/
def crcBits (buf : Bytes) : List Bool := buf.flatMap fun byte => lsbFirst 8 byte.toNat

/-- The reflected CRC-32, bit by bit. -/
def crc32Reflected (buf : Bytes) : UInt32 :=
  ⟨feed crc32Polynomial 0xFFFFFFFF#32 (crcBits buf) ^^^ 0xFFFFFFFF#32⟩

/-- Each word of the table is what eight turns make of its index. -/
theorem crc32Table_eq (i : Fin 256) :
    (crc32Table.getD i 0).toBitVec = (shift crc32Polynomial)^[8] (BitVec.ofNat 32 i) := by
  revert i
  decide +kernel

/-- The table replaces eight turns. -/
theorem crc32Byte_eq_feed (crc : UInt32) (byte : UInt8) :
    (crc32Byte crc byte).toBitVec =
      feed crc32Polynomial crc.toBitVec (lsbFirst 8 byte.toNat) := by
  have hbyte : byte.toNat < 2 ^ 8 := byte.toBitVec.isLt
  have hword : byte.toUInt32.toBitVec = BitVec.ofNat 32 byte.toNat := by
    apply BitVec.eq_of_toNat_eq
    rw [BitVec.toNat_ofNat, Nat.mod_eq_of_lt (by omega)]
    exact byte.toNat_toUInt32
  have hlow : byte.toUInt32.toBitVec >>> 8 = 0#32 := by
    apply BitVec.eq_of_toNat_eq
    rw [hword, BitVec.toNat_ushiftRight, BitVec.toNat_ofNat, Nat.mod_eq_of_lt (by omega),
      Nat.shiftRight_eq_div_pow, Nat.div_eq_of_lt hbyte]
    rfl
  have hindex : ((crc ^^^ byte.toUInt32) &&& 0xff).toNat =
      (crc ^^^ byte.toUInt32).toNat % 2 ^ 8 := by
    rw [UInt32.toNat_and]
    exact Nat.and_two_pow_sub_one_eq_mod _ 8
  have hentry := crc32Table_eq ⟨(crc ^^^ byte.toUInt32).toNat % 2 ^ 8, Nat.mod_lt _ (by decide)⟩
  have hhigh : (crc ^^^ byte.toUInt32).toBitVec >>> 8 = (crc >>> 8).toBitVec := by
    rw [UInt32.toBitVec_xor, BitVec.ushiftRight_xor_distrib, hlow, BitVec.xor_zero]
    rfl
  calc (crc32Byte crc byte).toBitVec
    _ = (crc ^^^ byte.toUInt32).toBitVec >>> 8 ^^^
          (shift crc32Polynomial)^[8]
            (BitVec.ofNat 32 ((crc ^^^ byte.toUInt32).toBitVec.toNat % 2 ^ 8)) := by
      rw [crc32Byte, UInt32.toBitVec_xor, hindex, hentry, hhigh]
      rfl
    _ = (shift crc32Polynomial)^[8] (crc ^^^ byte.toUInt32).toBitVec :=
      (iterate_shift_eq crc32Polynomial 8 _).symm
    _ = feed crc32Polynomial crc.toBitVec (lsbFirst 8 byte.toNat) := by
      rw [feed_lsbFirst _ (by decide), Nat.mod_eq_of_lt hbyte, ← hword, UInt32.toBitVec_xor]

theorem foldl_crc32Byte (crc : UInt32) (buf : Bytes) :
    (buf.foldl crc32Byte crc).toBitVec = feed crc32Polynomial crc.toBitVec (crcBits buf) := by
  induction buf generalizing crc with
  | nil => rfl
  | cons byte buf ih =>
      rw [List.foldl_cons, ih, crc32Byte_eq_feed, ← feed_append]
      rfl

theorem skyCrc32_eq_reflected (buf : Bytes) : skyCrc32 buf = crc32Reflected buf := by
  apply UInt32.eq_of_toBitVec_eq
  rw [skyCrc32, UInt32.toBitVec_xor, foldl_crc32Byte]
  rfl

/-- The test value of the comment on the parameters. -/
example : skyCrc32 [0x31, 0x32, 0x33, 0x34, 0x35, 0x36, 0x37, 0x38, 0x39] = 0xCBF43926 := by
  decide +kernel

/-! ## Extension and check -/

/-- The memory of a frame has the size that the struct gives it. -/
theorem skyExtendWithCrc32_eq {frame : SkyRadioFrame} (hraw : frame.raw.length = rawLen)
    (hlen : frame.length ≤ skyFrameMaxLen - crc32Size) :
    skyExtendWithCrc32 frame =
      some ({ frame with
        raw := frame.contents ++ storeU32 (skyHton32 (skyCrc32 frame.contents)) ++
          frame.raw.drop (frame.length + crc32Size)
        length := frame.length + crc32Size }, 0) := by
  have hfits : frame.length + crc32Size ≤ frame.raw.length := by
    rw [hraw]
    have hmax : skyFrameMaxLen - crc32Size + crc32Size ≤ rawLen := by decide
    omega
  have hslice : ArrayLoop.slice frame.raw 0 frame.length = some frame.contents :=
    ArrayLoop.slice_eq_some (by omega)
  rw [skyExtendWithCrc32, if_neg (Nat.not_lt.mpr hlen), hslice]
  simp only [Option.bind_eq_bind, Option.bind_some]
  rw [ArrayLoop.copyIn_eq_some hfits]
  rfl

/-- The check of the bytes `data` followed by four bytes of a checksum. -/
theorem skyCheckCrc32_eq {frame : SkyRadioFrame} {data checksum rest : Bytes}
    (hraw : frame.raw = data ++ checksum ++ rest) (hsize : checksum.length = crc32Size)
    (hlen : frame.length = data.length + crc32Size) :
    skyCheckCrc32 frame =
      if skyNtoh32 (loadU32 checksum) ≠ skyCrc32 data then some (frame, .crcInvalidChecksum)
      else some ({ frame with length := data.length }, 0) := by
  have hdata : ArrayLoop.slice frame.raw 0 data.length = some data := by
    rw [ArrayLoop.slice_eq_some (by rw [hraw]; simp), hraw, List.drop_zero, List.append_assoc,
      List.take_left]
  have hchecksum : ArrayLoop.slice frame.raw data.length crc32Size = some checksum := by
    rw [ArrayLoop.slice_eq_some (by rw [hraw]; simp [hsize]), hraw, List.append_assoc,
      List.drop_left, List.take_left' hsize]
  rw [skyCheckCrc32, if_neg (by omega), hlen, Nat.add_sub_cancel]
  dsimp only
  rw [hchecksum]
  simp only [Option.bind_eq_bind, Option.bind_some]
  rw [hdata]
  rfl

theorem SkyRadioFrame.contents_length_of_le {frame : SkyRadioFrame}
    (hraw : frame.raw.length = rawLen) (hlen : frame.length ≤ skyFrameMaxLen - crc32Size) :
    frame.contents.length = frame.length := by
  have hmax : skyFrameMaxLen - crc32Size ≤ rawLen := by decide
  rw [SkyRadioFrame.contents, List.length_take, hraw]
  omega

/-- The table-driven checksum is the reflected CRC-32 of every buffer, and the check of an
extended frame succeeds and gives back the frame that was extended. -/
theorem crc32_reflected_and_checked :
    (∀ buf : Bytes, skyCrc32 buf = crc32Reflected buf) ∧
      ∀ frame : SkyRadioFrame, frame.raw.length = rawLen →
        frame.length ≤ skyFrameMaxLen - crc32Size →
          ∃ extended checked, skyExtendWithCrc32 frame = some (extended, 0) ∧
            skyCheckCrc32 extended = some (checked, 0) ∧
            checked.length = frame.length ∧ checked.contents = frame.contents := by
  refine ⟨skyCrc32_eq_reflected, fun frame hraw hlen => ?_⟩
  have hcontents := SkyRadioFrame.contents_length_of_le hraw hlen
  have hmatch : ¬ skyNtoh32 (loadU32 (storeU32 (skyHton32 (skyCrc32 frame.contents)))) ≠
      skyCrc32 frame.contents := by
    rw [loadU32_storeU32, skyNtoh32, skyHton32_hton32]
    exact fun h => h rfl
  refine ⟨_, _, skyExtendWithCrc32_eq hraw hlen,
    (skyCheckCrc32_eq rfl (storeU32_length _) (by rw [hcontents])).trans (if_neg hmatch),
    hcontents, ?_⟩
  rw [SkyRadioFrame.contents, List.append_assoc, List.take_left]

theorem crc32_reflected_and_checked_example :
    ∃ extended checked, skyExtendWithCrc32 (.ofBytes [0x31, 0x32, 0x33]) = some (extended, 0) ∧
      skyCheckCrc32 extended = some (checked, 0) ∧ checked.length = 3 ∧
      checked.contents = [0x31, 0x32, 0x33] :=
  crc32_reflected_and_checked.2 (.ofBytes [0x31, 0x32, 0x33]) 
    (SkyRadioFrame.ofBytes_raw_length (by decide)) (by decide)

end Skylink
