import Skylink.Python.Agreement
import Skylink.Python.Coding

/-!
# What `parse_frame` makes of the frames of `construct_frame`

Header and payload are read back, and error correction is undone. The trailer has four
bytes where the frame is built and eight where it is parsed, and behind a coded length
the parser goes on where the frame ends.
-/

namespace Skylink

open BitPacking

namespace Python

/-! ## The header -/

theorem toBits_append (a b : Bytes) : toBits (a ++ b) = toBits a ++ toBits b :=
  List.flatMap_append

@[simp] theorem toBits_length (b : Bytes) : (toBits b).length = 8 * b.length := by
  simp [toBits, List.length_flatMap, Nat.mul_comm]

theorem pack_toBits (b : Bytes) : pack (toBits b) = b := by
  have h := pack_bytes_append b []
  rw [List.append_nil] at h
  exact h.trans (List.append_nil b)

/-- What a sequence returns comes from its second part. -/
theorem bind_eq_ok {α β : Type} {x : Except PythonError α} {f : α → Except PythonError β}
    {b : β} : (x >>= f) = .ok b ↔ ∃ a, x = .ok a ∧ f a = .ok b := by
  cases x with
  | error e =>
      constructor
      · intro h
        cases h
      · rintro ⟨a, h, -⟩
        cases h
  | ok a =>
      constructor
      · intro h
        exact ⟨a, rfl, h⟩
      · rintro ⟨a, ⟨⟩, h⟩
        exact h

/-- What is written into the header. -/
def headerFields (header : SkyHeader) : List BitField :=
  [.bitsInteger 5 header.version, .bitsInteger 3 header.identLen, .bytes header.identifier,
    .bitsInteger 2 header.fragment, .flag header.hasPayload, .flag header.arqOn,
    .flag header.isAuthenticated, .bitsInteger 3 header.vc,
    .bitsInteger 8 header.extensionLen, .bitsInteger 16 header.sequence,
    .bytes header.extensions]

/-- The header fits into its fields. -/
structure SkyHeader.Fits (header : SkyHeader) : Prop where
  version : header.version < 2 ^ 5
  identLen : header.identLen < 2 ^ 3
  fragment : header.fragment < 2 ^ 2
  vc : header.vc < 2 ^ 3
  extensionLen : header.extensionLen < 2 ^ 8
  sequence : header.sequence < 2 ^ 16
  identifier : header.identifier.length = header.identLen
  extensions : header.extensions.length = header.extensionLen

namespace SkyHeader.Fits

variable {header : SkyHeader}

/-- The fields fill up the bytes of the header. -/
theorem build (h : header.Fits) (lib : Construct) :
    ∃ bytes, lib.build (headerFields header) = some bytes ∧
      toBits bytes = (headerFields header).flatMap BitField.bits ∧
      bytes.length = 5 + header.identLen + header.extensionLen := by
  have hlength : ((headerFields header).flatMap BitField.bits).length =
      8 * (5 + header.identLen + header.extensionLen) := by
    rw [← h.identifier, ← h.extensions]
    simp [headerFields, BitField.bits, List.length_flatMap]
    omega
  have hfits : ∀ field ∈ headerFields header, field.Fits := by
    simp only [headerFields, List.forall_mem_cons]
    exact ⟨h.version, h.identLen, trivial, h.fragment, trivial, trivial, trivial, h.vc,
      h.extensionLen, h.sequence, trivial, fun _ hfield => absurd hfield List.not_mem_nil⟩
  have hbits := flatMap_bitsOf_pack _ hlength
  refine ⟨_, lib.build_eq _ hfits ⟨_, hlength⟩, hbits, ?_⟩
  have hcount := congrArg List.length hbits
  rw [hlength] at hcount
  have := toBits_length (pack ((headerFields header).flatMap BitField.bits))
  rw [toBits, hcount] at this
  omega

/-- The parsers read them again. -/
theorem read (h : header.Fits) (parsers : ConstructParsers) (rest : List Bool) :
    SkyHeader.read parsers ((headerFields header).flatMap BitField.bits ++ rest) =
      .ok (header, rest) := by
  have hidentifier (rest : List Bool) : parsers.bytewiseBytes header.identLen
      (toBits header.identifier ++ rest) = .ok (header.identifier, rest) := by
    rw [← h.identifier]
    exact parsers.bytewiseBytes_eq _ _
  have hextensions (rest : List Bool) : parsers.bytewiseBytes header.extensionLen
      (toBits header.extensions ++ rest) = .ok (header.extensions, rest) := by
    rw [← h.extensions]
    exact parsers.bytewiseBytes_eq _ _
  have hstream : (headerFields header).flatMap BitField.bits ++ rest =
      bitsOf 5 header.version ++ (bitsOf 3 header.identLen ++ (toBits header.identifier ++
        (bitsOf 2 header.fragment ++ (header.hasPayload :: header.arqOn ::
          header.isAuthenticated :: (bitsOf 3 header.vc ++ (bitsOf 8 header.extensionLen ++
            (bitsOf 16 header.sequence ++ (toBits header.extensions ++ rest)))))))) := by
    simp [headerFields, BitField.bits, toBits]
  rw [hstream, SkyHeader.read]
  simp only [parsers.bitsInteger_eq _ _ _ h.version, parsers.bitsInteger_eq _ _ _ h.identLen,
    parsers.bitsInteger_eq _ _ _ h.fragment, parsers.bitsInteger_eq _ _ _ h.vc,
    parsers.bitsInteger_eq _ _ _ h.extensionLen, parsers.bitsInteger_eq _ _ _ h.sequence,
    hidentifier, hextensions, parsers.flag_eq, bind, Except.bind, pure, Except.pure]

/-- The header of a frame of bytes. -/
theorem bitwise_read (h : header.Fits) (parsers : ConstructParsers) {bytes : Bytes}
    (hbytes : toBits bytes = (headerFields header).flatMap BitField.bits) (rest : Bytes) :
    bitwise (SkyHeader.read parsers) (bytes ++ rest) = .ok (header, rest) := by
  rw [bitwise, toBits_append, hbytes, h.read parsers]
  show Except.ok (header, pack (toBits rest)) = _
  rw [pack_toBits]

end SkyHeader.Fits

/-! ## The layers -/

/-- The randomizer undoes itself. -/
theorem randomize_randomize {raw coded : Bytes} (h : randomize raw = .ok coded) :
    coded.length = raw.length ∧ randomize coded = .ok raw := by
  rw [randomize] at h
  split at h
  case isTrue hle =>
    cases h
    have hlength : (raw.zipWith (· ^^^ ·) whitening).length = raw.length := by
      rw [List.length_zipWith, Nat.min_eq_left hle]
    refine ⟨hlength, ?_⟩
    rw [randomize, if_pos (by rw [hlength]; exact hle)]
    refine congrArg Except.ok (List.ext_getElem ?_ fun i hi hi' => ?_)
    · rw [List.length_zipWith, hlength, Nat.min_eq_left hle]
    · rw [List.getElem_zipWith, List.getElem_zipWith, UInt8.xor_assoc, UInt8.xor_self,
        UInt8.xor_zero]
  case isFalse => cases h

/-- The decoder finds no error in what the encoder made. -/
def UndoesEncoder (decodeRs8 : RsDecoder) : Prop :=
  ∀ data : Bytes, data.length ≤ rsBlockLength - rsLength →
    ∃ bytesCorrected,
      decodeRs8 (data ++ encodeRs8 data) = some (data ++ encodeRs8 data, bytesCorrected)

theorem encodeRs_ok {data word : Bytes} (h : encodeRs data = .ok word) :
    data.length ≤ 223 ∧ word = data ++ encodeRs8 data ∧ word.length = data.length + 32 := by
  rw [encodeRs] at h
  split at h
  · cases h
  · rename_i hle
    cases h
    exact ⟨not_lt.mp hle, rfl, by rw [List.length_append, encodeRs8_length]; rfl⟩

theorem decodeRs_encodeRs {decodeRs8 : RsDecoder} (hrs : UndoesEncoder decodeRs8)
    {data word : Bytes} (hpos : 0 < data.length) (h : encodeRs data = .ok word) :
    ∃ bytesCorrected, decodeRs decodeRs8 word = .ok (data, bytesCorrected) := by
  obtain ⟨hle, rfl, hlength⟩ := encodeRs_ok h
  obtain ⟨bytesCorrected, hdecode⟩ := hrs data hle
  refine ⟨bytesCorrected, ?_⟩
  rw [decodeRs, if_neg (by rw [hlength, rsLength, rsBlockLength]; omega), hdecode]
  dsimp only
  rw [hlength, rsLength, Nat.add_sub_cancel, List.take_left]

/-- A word without errors. -/
theorem decodeGolay24_codeword {data : Nat} (h : golayProduct golayH data = 0) :
    decodeGolay24 data = .ok (data &&& 0xfff) := by
  rw [decodeGolay24]
  generalize golayProduct golayH data = s at h ⊢
  subst h
  have hweight : popcount 0 ≤ 3 := by decide
  dsimp only
  rw [if_pos hweight, Nat.zero_shiftLeft, Nat.xor_zero]

theorem decodeGolay24_encodeGolay24 {n : Nat} (hn : n < 256) :
    decodeGolay24 (encodeGolay24 n) = .ok n ∧ encodeGolay24 n < 2 ^ 24 := by
  have hall : ∀ n : Fin 256, golayProduct golayH (encodeGolay24 n) = 0 ∧
      encodeGolay24 n < 2 ^ 24 ∧ encodeGolay24 n &&& 0xfff = n.val := by
    decide +kernel
  obtain ⟨hsyndrome, hlt, hlow⟩ := hall ⟨n, hn⟩
  rw [decodeGolay24_codeword hsyndrome]
  exact ⟨congrArg Except.ok hlow, hlt⟩

/-- The coded length is read again. -/
theorem decodeGolay24Bytes_encode {n : Nat} (hn : n < 256) (rest : Bytes) :
    decodeGolay24Bytes (encodeGolay24Bytes n ++ rest) = .ok n := by
  obtain ⟨hdecode, hlt⟩ := decodeGolay24_encodeGolay24 hn
  have hlength : (encodeGolay24Bytes n).length = 3 := by simp [encodeGolay24Bytes, bigEndian]
  have hword : bigEndian 4 (encodeGolay24 n) = 0 :: encodeGolay24Bytes n := by
    have hhead : encodeGolay24 n >>> (8 * 3) = 0 := by
      rw [Nat.shiftRight_eq_div_pow]
      omega
    rw [encodeGolay24Bytes, bigEndian_succ 3, hhead]
    rfl
  have hvalue : bigEndianFrom 0 (0 :: encodeGolay24Bytes n) = encodeGolay24 n := by
    calc bigEndianFrom 0 (0 :: encodeGolay24Bytes n)
      _ = 0 * 256 ^ 4 + encodeGolay24 n % 256 ^ 4 := by rw [← hword, bigEndianFrom_bigEndian]
      _ = encodeGolay24 n := by rw [Nat.zero_mul, Nat.zero_add, Nat.mod_eq_of_lt (by omega)]
  rw [decodeGolay24Bytes, List.take_left' hlength, if_pos hlength, hvalue, hdecode]

/-- Behind the coded length the parser finds nothing to decode. -/
theorem parseFrame_golay (parsers : ConstructParsers) (blake3 : Blake3) (decodeRs8 : RsDecoder)
    {coded : Bytes} (hlength : coded.length < 256) (includesFec : Bool) (key : Option Bytes)
    (hfec : includesFec = true) :
    parseFrame parsers blake3 decodeRs8 (encodeGolay24Bytes coded.length ++ coded) true
      includesFec key = .error (.fecError "Invalid length 0") := by
  have hthree : (encodeGolay24Bytes coded.length).length = 3 := by
    simp [encodeGolay24Bytes, bigEndian]
  have hflags : ∀ n : Fin 256, 0xff &&& n.val = n.val ∧ ¬n.val &&& 0x800 ≠ 0 := by
    decide +kernel
  obtain ⟨hlow, hviterbi⟩ := hflags ⟨_, hlength⟩
  have hstrip : stripGolay (encodeGolay24Bytes coded.length ++ coded) true = .ok ([], true) := by
    have hdrop : (encodeGolay24Bytes coded.length ++ coded).drop (3 + coded.length) = [] := by
      rw [List.drop_eq_nil_iff, List.length_append, hthree]
    have hlen : ¬coded.length + 3 < (encodeGolay24Bytes coded.length ++ coded).length := by
      rw [List.length_append, hthree]
      omega
    dsimp only at hlow hviterbi
    rw [stripGolay, decodeGolay24Bytes_encode hlength]
    dsimp only [bind, Except.bind]
    rw [hlow, if_neg hlen, if_neg hviterbi, hdrop, Bool.true_or]
    rfl
  have hrandom : randomize [] = .ok [] := by
    rw [randomize]
    exact if_pos (Nat.zero_le _)
  have hempty : decodeRs decodeRs8 [] = .error (.fecError "Invalid length 0") := by
    rw [decodeRs]
    exact if_pos (.inl (Nat.zero_le _))
  rw [parseFrame, hfec, if_pos rfl, hstrip]
  dsimp only [bind, Except.bind]
  rw [if_pos rfl, hrandom]
  dsimp only
  rw [hempty]

/-! ## Round trips -/

/-- The parsed frame has what the function was given. -/
structure SkyRadioFrame.Restores (frame : SkyRadioFrame) (identity : Bytes) (sequence vc : Nat)
    (payload extensions : Bytes) : Prop where
  identifier : frame.header.identifier = identity
  sequence : frame.header.sequence = sequence
  vc : frame.header.vc = vc
  extensions : frame.header.extensions = extensions
  payload : frame.payload = some payload

/-- The header that `construct_frame` builds. -/
def builtHeader (identity : Bytes) (sequence vc : Nat) (payload : Bytes) (fragment : Nat)
    (extensions : Bytes) (hmacKey : Option Bytes) : SkyHeader :=
  { version := 12
    identLen := identity.length
    identifier := identity
    fragment := fragment
    hasPayload := decide (0 < payload.length)
    arqOn := false
    isAuthenticated := hmacKey.isSome
    vc := vc
    extensionLen := extensions.length
    sequence := sequence
    extensions := extensions }

section Frame

variable (parsers : ConstructParsers) {header : SkyHeader} {bytes payload : Bytes}

theorem parseStruct_plain (h : header.Fits)
    (hbytes : toBits bytes = (headerFields header).flatMap BitField.bits)
    (hlength : bytes.length = 5 + header.identLen + header.extensionLen)
    (hpayload : header.hasPayload = true) (hplain : header.isAuthenticated = false) :
    parseStruct parsers (bytes ++ payload) =
      .ok { header := header, payload := some payload, auth := none } := by
  have hlen : header.payloadLen (bytes ++ payload).length = payload.length := by
    rw [SkyHeader.payloadLen, hplain, List.length_append, hlength, if_neg Bool.false_ne_true]
    push_cast
    omega
  have hread := parsers.bytes_eq payload []
  rw [List.append_nil] at hread
  rw [parseStruct, h.bitwise_read parsers hbytes]
  dsimp only [bind, Except.bind]
  rw [hlen, hpayload, hplain, readIf, if_pos rfl, hread]
  rfl

/-- With a trailer of four bytes the payload is cut short. -/
theorem parseStruct_signed (h : header.Fits)
    (hbytes : toBits bytes = (headerFields header).flatMap BitField.bits)
    (hlength : bytes.length = 5 + header.identLen + header.extensionLen)
    (hpayload : header.hasPayload = true) (hsigned : header.isAuthenticated = true)
    {trailer : Bytes} (htrailer : trailer.length = 4) {frame : SkyRadioFrame}
    (hparse : parseStruct parsers (bytes ++ payload ++ trailer) = .ok frame) :
    frame.payload ≠ some payload := by
  have hlen : header.payloadLen (bytes ++ payload ++ trailer).length = payload.length - 4 := by
    rw [SkyHeader.payloadLen, hsigned, List.length_append, List.length_append, hlength, htrailer,
      if_pos rfl]
    push_cast
    omega
  rw [List.append_assoc, parseStruct, h.bitwise_read parsers hbytes] at hparse
  obtain ⟨_, ⟨⟩, hparse⟩ := bind_eq_ok.mp hparse
  rw [List.append_assoc] at hlen
  dsimp only at hparse
  rw [hlen, hpayload, readIf, if_pos rfl] at hparse
  rcases Nat.lt_or_ge payload.length 4 with hshort | hlong
  · rw [parsers.bytes_negative _ _ (by omega)] at hparse
    cases hparse
  · have hcut : (payload.take (payload.length - 4)).length = payload.length - 4 := by
      rw [List.length_take]
      omega
    have hread := parsers.bytes_eq (payload.take (payload.length - 4))
      (payload.drop (payload.length - 4) ++ trailer)
    rw [← List.append_assoc, List.take_append_drop, hcut, Nat.cast_sub hlong] at hread
    rw [show ((4 : Nat) : Int) = 4 from rfl] at hread
    rw [hread] at hparse
    obtain ⟨_, ⟨⟩, hparse⟩ := bind_eq_ok.mp hparse
    obtain ⟨auth, -, hreturn⟩ := bind_eq_ok.mp hparse
    cases hreturn
    intro hsame
    have hcount := congrArg List.length (Option.some.inj hsame)
    omega

end Frame

theorem builtHeader_fits {identity : Bytes} (hidentity : identity.length ≤ 7)
    (sequence : UInt16) (vc : Fin 4) (payload : Bytes) (fragment : Fin 4) {extensions : Bytes}
    (hextensions : extensions.length ≤ 255) (hmacKey : Option Bytes) :
    (builtHeader identity sequence.toNat vc payload fragment extensions hmacKey).Fits := by
  have hvc := vc.isLt
  refine ⟨(by decide : 12 < 2 ^ 5), ?_, fragment.isLt, ?_, ?_, sequence.toNat_lt, rfl, rfl⟩
  · show identity.length < 2 ^ 3
    omega
  · show vc.val < 2 ^ 3
    omega
  · show extensions.length < 2 ^ 8
    omega

/-- How the layers are put around a frame. -/
inductive Layered (raw : Bytes) : Bool → Bool → Bytes → Prop
  | plain : Layered raw false false raw
  | fec {word coded : Bytes} (hencode : encodeRs raw = .ok word)
      (hrandom : randomize word = .ok coded) : Layered raw false true coded
  | golay {word coded : Bytes} (hencode : encodeRs raw = .ok word)
      (hrandom : randomize word = .ok coded) :
      Layered raw true true (encodeGolay24Bytes coded.length ++ coded)

theorem addCoding_layered {raw bytes : Bytes} {appendGolay appendFec : Bool}
    (hsupported : (appendGolay && !appendFec) = false)
    (h : addCoding raw appendGolay appendFec = .ok bytes) :
    Layered raw appendGolay appendFec bytes := by
  rw [addCoding] at h
  cases appendFec with
  | false =>
      rw [Bool.not_false, Bool.and_true] at hsupported
      subst hsupported
      cases h
      exact .plain
  | true =>
      rw [if_pos rfl] at h
      obtain ⟨word, hencode, hrest⟩ := bind_eq_ok.mp h
      obtain ⟨coded, hrandom, hreturn⟩ := bind_eq_ok.mp hrest
      cases appendGolay with
      | false =>
          cases hreturn
          exact .fec hencode hrandom
      | true =>
          cases hreturn
          exact .golay hencode hrandom

/-- What `construct_frame` returns. -/
theorem constructCodedFrame_ok (lib : Construct) (blake3 : Blake3) {identity : Bytes}
    {sequence vc : Nat} {payload : Bytes} {fragment : Nat} {extensions : Bytes}
    {appendGolay appendFec : Bool} {hmacKey : Option Bytes}
    (hfits : (builtHeader identity sequence vc payload fragment extensions hmacKey).Fits)
    {bytes : Bytes}
    (h : constructCodedFrame lib blake3 identity sequence vc payload fragment extensions
      appendGolay appendFec hmacKey = .ok bytes) :
    ∃ header : Bytes, toBits header = (headerFields (builtHeader identity sequence vc payload
        fragment extensions hmacKey)).flatMap BitField.bits ∧
      header.length = 5 + identity.length + extensions.length ∧
      Layered (signed blake3 (header ++ payload) hmacKey) appendGolay appendFec bytes := by
  obtain ⟨header, hbuild, hbits, hlength⟩ := hfits.build lib
  have hheader : skyHeader lib identity fragment (decide (0 < payload.length)) false
      hmacKey.isSome vc sequence extensions = some header := hbuild
  rw [constructCodedFrame, hheader] at h
  cases hsupported : appendGolay && !appendFec with
  | false =>
      rw [hsupported, if_neg Bool.false_ne_true] at h
      exact ⟨header, hbits, hlength, addCoding_layered hsupported h⟩
  | true =>
      rw [hsupported, if_pos rfl] at h
      cases h

/-- Without a coded length the parser takes off what was put around the frame. -/
theorem Layered.parseFrame {raw bytes : Bytes} {appendFec : Bool}
    (h : Layered raw false appendFec bytes) (parsers : ConstructParsers) (blake3 : Blake3)
    {decodeRs8 : RsDecoder} (hrs : UndoesEncoder decodeRs8) (hpos : 0 < raw.length)
    (hmacKey : Option Bytes) :
    Python.parseFrame parsers blake3 decodeRs8 bytes false appendFec hmacKey =
      Python.parseFrame parsers blake3 decodeRs8 raw false false hmacKey := by
  cases h with
  | plain => rfl
  | fec hencode hrandom =>
      obtain ⟨-, hback⟩ := randomize_randomize hrandom
      obtain ⟨bytesCorrected, hdecode⟩ := decodeRs_encodeRs hrs hpos hencode
      rw [Python.parseFrame, Python.parseFrame, if_neg Bool.false_ne_true]
      dsimp only [bind, Except.bind, pure, Except.pure]
      rw [if_pos rfl, hback]
      dsimp only
      rw [hdecode]
      rfl

/-- Without any coding the parser only has the authentication to check. -/
theorem parseFrame_uncoded (parsers : ConstructParsers) (blake3 : Blake3)
    (decodeRs8 : RsDecoder) (raw : Bytes) (hmacKey : Option Bytes) :
    parseFrame parsers blake3 decodeRs8 raw false false hmacKey = (do
      let frame ← parseStruct parsers raw
      match hmacKey with
      | some key =>
          if frame.header.isAuthenticated then do
            let _ ← hmacVerify blake3 raw key
            pure frame
          else pure frame
      | none => pure frame) := rfl

theorem parseFrame_bare (parsers : ConstructParsers) (blake3 : Blake3) (decodeRs8 : RsDecoder)
    (raw : Bytes) :
    parseFrame parsers blake3 decodeRs8 raw false false none = parseStruct parsers raw := by
  rw [parseFrame_uncoded]
  exact bind_pure _

/-- A key only adds a check. -/
theorem parseFrame_parseStruct {parsers : ConstructParsers} {blake3 : Blake3}
    {decodeRs8 : RsDecoder} {raw : Bytes} {hmacKey : Option Bytes} {frame : SkyRadioFrame}
    (h : parseFrame parsers blake3 decodeRs8 raw false false hmacKey = .ok frame) :
    parseStruct parsers raw = .ok frame := by
  rw [parseFrame_uncoded] at h
  obtain ⟨parsed, hparse, hcheck⟩ := bind_eq_ok.mp h
  rw [hparse]
  cases hmacKey with
  | none => exact hcheck
  | some key =>
      dsimp only at hcheck
      split at hcheck
      · obtain ⟨truncated, -, hreturn⟩ := bind_eq_ok.mp hcheck
        exact hreturn
      · exact hcheck

/-- The parser gives back what the function was given. -/
def ParsesBack (parsers : ConstructParsers) (blake3 : Blake3) (decodeRs8 : RsDecoder)
    (bytes identity : Bytes) (sequence vc : Nat) (payload extensions : Bytes)
    (golay fec : Bool) (hmacKey : Option Bytes) : Prop :=
  ∃ frame, parseFrame parsers blake3 decodeRs8 bytes golay fec hmacKey = .ok frame ∧
    frame.Restores identity sequence vc payload extensions

/-- Frames are read back when they have neither a trailer nor a coded length. -/
theorem parsesBack_iff (lib : Construct) (parsers : ConstructParsers) (blake3 : Blake3)
    {decodeRs8 : RsDecoder} (hrs : UndoesEncoder decodeRs8) {identity : Bytes}
    (hidentity : identity.length ≤ 7) (sequence : UInt16) (vc fragment : Fin 4)
    {payload : Bytes} (hpayload : payload ≠ []) {extensions : Bytes}
    (hextensions : extensions.length ≤ 255) (golay fec : Bool) {hmacKey : Option Bytes}
    (hkey : ∀ key ∈ hmacKey, key.length = 32) {bytes : Bytes}
    (hbytes : constructCodedFrame lib blake3 identity sequence.toNat vc payload fragment
      extensions golay fec hmacKey = .ok bytes) :
    ParsesBack parsers blake3 decodeRs8 bytes identity sequence.toNat vc payload extensions
      golay fec hmacKey ↔ hmacKey = none ∧ golay = false := by
  have hfits := builtHeader_fits hidentity sequence vc payload fragment hextensions hmacKey
  obtain ⟨header, hbits, hlength, hlayers⟩ := constructCodedFrame_ok lib blake3 hfits hbytes
  have hhas : decide (0 < payload.length) = true :=
    decide_eq_true (List.length_pos_of_ne_nil hpayload)
  have hraw : 0 < (signed blake3 (header ++ payload) hmacKey).length := by
    have hheader : 0 < (header ++ payload).length := by
      rw [List.length_append, hlength]
      omega
    cases hmacKey with
    | none => exact hheader
    | some key =>
        rw [signed, hmacAppend, List.length_append]
        omega
  constructor
  · rintro ⟨frame, hparse, hrestores⟩
    cases golay with
    | true =>
        cases hlayers with
        | golay hencode hrandom =>
            obtain ⟨hle, -, hword⟩ := encodeRs_ok hencode
            obtain ⟨hcoded, -⟩ := randomize_randomize hrandom
            rw [parseFrame_golay parsers blake3 decodeRs8 (by omega) true hmacKey rfl] at hparse
            cases hparse
    | false =>
        refine ⟨?_, rfl⟩
        rw [hlayers.parseFrame parsers blake3 hrs hraw] at hparse
        have hstruct := parseFrame_parseStruct hparse
        cases hmacKey with
        | none => rfl
        | some key =>
            have htrailer : (blake3.digest (header ++ payload) key hmacLength).length = 4 :=
              blake3.digest_length _ _ _ (hkey key rfl)
            exact absurd hrestores.payload (parseStruct_signed parsers hfits hbits hlength hhas
              rfl htrailer hstruct)
  · rintro ⟨rfl, rfl⟩
    have hstruct : parseStruct parsers (header ++ payload) = .ok _ :=
      parseStruct_plain parsers hfits hbits hlength hhas rfl
    have hparse := hlayers.parseFrame parsers blake3 hrs hraw none
    rw [parseFrame_bare, signed, hstruct] at hparse
    exact ⟨_, hparse, ⟨rfl, rfl, rfl, rfl, rfl⟩⟩

/-! ## Concrete packages -/

/-- Parsers that take bits and bytes from the front. -/
def frontParsers : ConstructParsers where
  bitsInteger length stream :=
    if length ≤ stream.length then .ok (ofBits (stream.take length), stream.drop length)
    else .error .constructError
  flag
    | value :: rest => .ok (value, rest)
    | [] => .error .constructError
  bytewiseBytes length stream :=
    if 8 * length ≤ stream.length then
      .ok (pack (stream.take (8 * length)), stream.drop (8 * length))
    else .error .constructError
  bytes length stream :=
    if 0 ≤ length ∧ length ≤ stream.length then
      .ok (stream.take length.toNat, stream.drop length.toNat)
    else .error .constructError
  bitsInteger_eq length value rest hvalue := by
    rw [if_pos (by rw [List.length_append, bitsOf_length]; exact Nat.le_add_right _ _),
      List.take_left' (bitsOf_length _ _), List.drop_left' (bitsOf_length _ _), ofBits_bitsOf,
      Nat.mod_eq_of_lt hvalue]
  flag_eq _ _ := rfl
  bytewiseBytes_eq data rest := by
    rw [if_pos (by rw [List.length_append, toBits_length]; exact Nat.le_add_right _ _),
      List.take_left' (toBits_length _), List.drop_left' (toBits_length _), pack_toBits]
  bytes_eq data rest := by
    rw [if_pos (by rw [List.length_append]; omega), Int.toNat_natCast, List.take_left,
      List.drop_left]
  bytes_negative length stream hneg := if_neg fun h => absurd h.1 (not_le.mpr hneg)

/-- A hash that gives the digest of the example below. -/
def exampleBlake3 : Blake3 where
  digest _ _ length := [0xc5, 0x5b, 0x10, 0xe9].take length ++ List.replicate (length - 4) 0
  digest_length _ _ length _ := by
    rw [List.length_append, List.length_take, List.length_replicate]
    simp only [List.length_cons, List.length_nil]
    omega

/-- What the decoder returns for a codeword without errors. -/
def exampleRsDecoder : RsDecoder := fun word => some (word, 0)

theorem exampleRsDecoder_undoes : UndoesEncoder exampleRsDecoder := fun _ _ => ⟨0, rfl⟩

/-- `ABCDEF`. -/
def exampleCallSign : Bytes := [0x41, 0x42, 0x43, 0x44, 0x45, 0x46]

/-- `Hello World`. -/
def exampleGreeting : Bytes :=
  [0x48, 0x65, 0x6c, 0x6c, 0x6f, 0x20, 0x57, 0x6f, 0x72, 0x6c, 0x64]

/-- A frame with error correction. -/
theorem parsesBack_iff_example :
    ∃ bytes, constructCodedFrame packingConstruct exampleBlake3 exampleCallSign
        (123 : UInt16).toNat (3 : Fin 4) exampleGreeting (0 : Fin 4) [0x10, 0x7b] false true
        none = .ok bytes ∧
      ParsesBack frontParsers exampleBlake3 exampleRsDecoder bytes exampleCallSign
        (123 : UInt16).toNat (3 : Fin 4) exampleGreeting [0x10, 0x7b] false true none := by
  have hsome : (constructCodedFrame packingConstruct exampleBlake3 exampleCallSign
      (123 : UInt16).toNat (3 : Fin 4) exampleGreeting (0 : Fin 4) [0x10, 0x7b] false true
      none).toOption.isSome = true := by decide +kernel
  cases hbytes : constructCodedFrame packingConstruct exampleBlake3 exampleCallSign
      (123 : UInt16).toNat (3 : Fin 4) exampleGreeting (0 : Fin 4) [0x10, 0x7b] false true none with
  | error e =>
      rw [hbytes] at hsome
      cases hsome
  | ok bytes =>
      exact ⟨bytes, rfl, (parsesBack_iff packingConstruct frontParsers exampleBlake3
        exampleRsDecoder_undoes (by decide) 123 3 0 (by decide) (by decide) false true (by simp)
        hbytes).mpr ⟨rfl, rfl⟩⟩

/-- With a key the parser takes the last four bytes of the payload for a part of the
trailer. -/
theorem not_parsesBack :
    ¬∀ (lib : Construct) (parsers : ConstructParsers) (blake3 : Blake3)
      (decodeRs8 : RsDecoder), UndoesEncoder decodeRs8 →
      ∀ (identity : Bytes) (sequence : UInt16) (vc fragment : Fin 4)
        (payload extensions : Bytes) (golay fec : Bool) (hmacKey : Option Bytes) (bytes : Bytes),
        0 < identity.length → identity.length ≤ 7 → payload ≠ [] → extensions.length ≤ 255 →
        (∀ key ∈ hmacKey, key.length = 32) →
        constructCodedFrame lib blake3 identity sequence.toNat vc payload fragment extensions
          golay fec hmacKey = .ok bytes →
        ParsesBack parsers blake3 decodeRs8 bytes identity sequence.toNat vc payload extensions
          golay fec hmacKey := by
  intro h
  let key : Bytes := (List.range 32).map UInt8.ofNat
  let bytes : Bytes := 0x66 :: exampleCallSign ++ [0x2b, 0, 0, 0] ++ exampleGreeting ++
    [0xc5, 0x5b, 0x10, 0xe9]
  have hbytes : constructCodedFrame packingConstruct exampleBlake3 exampleCallSign
      (0 : UInt16).toNat (3 : Fin 4) exampleGreeting (0 : Fin 4) [] false false (some key) =
        .ok bytes := by decide +kernel
  have hparse : (parseFrame frontParsers exampleBlake3 exampleRsDecoder bytes false false
      (some key)).map SkyRadioFrame.payload =
        .ok (some [0x48, 0x65, 0x6c, 0x6c, 0x6f, 0x20, 0x57]) := by decide +kernel
  obtain ⟨frame, hframe, hrestores⟩ := h packingConstruct frontParsers exampleBlake3
    exampleRsDecoder exampleRsDecoder_undoes exampleCallSign 0 3 0 exampleGreeting [] false false
    (some key) bytes (by decide) (by decide) (by decide) (by decide)
    (fun k hk => by rw [← Option.some.inj hk]; rfl) hbytes
  rw [hframe] at hparse
  have hpayload := hrestores.payload.symm.trans (Except.ok.inj hparse)
  exact absurd hpayload (by decide)

end Python

end Skylink
