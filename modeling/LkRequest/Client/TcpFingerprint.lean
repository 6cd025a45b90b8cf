import LkRequest.Library.Text

/-!
# TCP fingerprints

The JA4T strings and receive buffers of `tcp_fingerprint.rs`, with the shift of a release build.
-/

namespace LkRequest.Client

open Library Text List

inductive TcpOption where
  | eol | nop | mss | windowScale | sackPermitted | timestamps

namespace TcpOption

def kind : TcpOption → Nat
  | eol => 0
  | nop => 1
  | mss => 2
  | windowScale => 3
  | sackPermitted => 4
  | timestamps => 8

def fromKind : Nat → Option TcpOption
  | 0 => some eol
  | 1 => some nop
  | 2 => some mss
  | 3 => some windowScale
  | 4 => some sackPermitted
  | 8 => some timestamps
  | _ => none

end TcpOption

/-- The fields of JA4T. -/
structure TcpFingerprint where
  windowSize : Option UInt32
  tcpOptions : Option (List TcpOption)
  mss : Option UInt32
  windowScale : Option UInt8

/-- `str::parse` of a number of fewer bits. -/
def parseBelow (bound : Nat) (text : Text) : Option Nat := (parseU64 text).filter (· < bound)

namespace TcpFingerprint

def fromJa4t (text : Text) : Option TcpFingerprint :=
  match text.splitOn '_' with
  | [window, options, segment, scale] => do
    let windowSize ← parseBelow (2 ^ 32) window
    let tcpOptions ← (options.splitOn '-').mapM fun kind =>
      (parseBelow 256 kind).bind TcpOption.fromKind
    let mss ← parseBelow (2 ^ 32) segment
    let windowScale ← parseBelow 256 scale
    some ⟨some (.ofNat windowSize), some tcpOptions, some (.ofNat mss), some (.ofNat windowScale)⟩
  | _ => none

def toJa4t (fingerprint : TcpFingerprint) : Option Text := do
  let windowSize ← fingerprint.windowSize
  let tcpOptions ← fingerprint.tcpOptions
  let mss ← fingerprint.mss
  let windowScale ← fingerprint.windowScale
  some (['_'].intercalate [ofNat windowSize.toNat,
    ['-'].intercalate (tcpOptions.map fun option => ofNat option.kind), ofNat mss.toNat,
    ofNat windowScale.toNat])

/-- The shift takes its count modulo 64. -/
def target (windowSize : UInt32) (windowScale : UInt8) : Nat :=
  windowSize.toNat * 2 ^ (windowScale.toNat % 64) % 2 ^ 64

def computeRecvBuf (fingerprint : TcpFingerprint) (linux : Bool) : Option Nat := do
  let windowSize ← fingerprint.windowSize
  let windowScale ← fingerprint.windowScale
  let target := target windowSize windowScale
  some (min (if linux then target / 2 else target) (2 ^ 32 - 1))

variable (windowSize mss : UInt32) (options : List TcpOption) (windowScale : UInt8)

/-- No shift and no bit is lost, and the buffer is as large as over the integers. -/
structure BufferExact (fingerprint : TcpFingerprint) : Prop where
  shift : windowScale.toNat < 64
  bits : target windowSize windowScale = windowSize.toNat * 2 ^ windowScale.toNat
  buffer : ∀ linux, fingerprint.computeRecvBuf linux =
    some (min (windowSize.toNat * 2 ^ windowScale.toNat / if linux then 2 else 1) (2 ^ 32 - 1))

theorem decimal_ofNat (n : Nat) : decimal (ofNat n) = n := by
  have hdigits := @Nat.ofDigitChars_toDigits 10 n (by decide) le_rfl
  simpa [decimal, ofNat, Nat.ofDigitChars, Nat.mul_comm] using hdigits

theorem parseBelow_ofNat {n bound : Nat} (hn : n < bound) (hbound : bound ≤ 2 ^ 64) :
    parseBelow bound (ofNat n) = some n := by
  have hplus : ∀ rest, ofNat n = '+' :: rest → False := by
    intro rest hequal
    have hdigit : '+'.isDigit := isDigit_of_mem_ofNat (hequal ▸ mem_cons_self)
    cases hdigit
  have hvalid : ofNat n ≠ [] ∧ (ofNat n).all Char.isDigit ∧ decimal (ofNat n) < 2 ^ 64 := by
    refine ⟨Nat.toDigits_ne_nil, all_eq_true.mpr fun _ => isDigit_of_mem_ofNat, ?_⟩
    rw [decimal_ofNat]
    omega
  rw [parseBelow, parseU64, if_pos hvalid, decimal_ofNat]
  · exact if_pos (decide_eq_true hn)
  · exact hplus

theorem not_mem_ofNat {c : Char} (hc : c.isDigit = false) (n : Nat) : c ∉ ofNat n := by
  intro hmem
  rw [isDigit_of_mem_ofNat hmem] at hc
  cases hc

theorem not_mem_options :
    '_' ∉ ['-'].intercalate (options.map fun option => ofNat option.kind) := by
  induction options with
  | nil => simp
  | cons option options ih =>
    have hkind := not_mem_ofNat (c := '_') rfl option.kind
    cases options <;> simp_all [intercalate]

/-- The options are read back, unless there are none: the empty text is one kind, and no number. -/
theorem mapM_options : ((['-'].intercalate (options.map fun option => ofNat option.kind)).splitOn
      '-').mapM (fun kind => (parseBelow 256 kind).bind TcpOption.fromKind) =
    if options = [] then none else some options := by
  split
  next hnone =>
    subst hnone
    rfl
  next hsome =>
    rw [splitOn_intercalate]
    · clear hsome
      induction options with
      | nil => rfl
      | cons option options ih =>
        have hkind : (parseBelow 256 (ofNat option.kind)).bind TcpOption.fromKind =
            some option := by
          cases option <;> rfl
        rw [map_cons, mapM_cons, hkind, ih]
        rfl
    · rintro text hmem
      obtain ⟨option, -, rfl⟩ := mem_map.mp hmem
      exact not_mem_ofNat rfl _
    · simpa using hsome

theorem ja4t_exact_iff :
    let fingerprint : TcpFingerprint :=
      ⟨some windowSize, some options, some mss, some windowScale⟩
    (fingerprint.toJa4t.bind fromJa4t = some fingerprint ↔ options ≠ []) ∧
      (fingerprint.BufferExact windowSize windowScale ↔
        windowScale.toNat < 64 ∧ windowSize.toNat * 2 ^ windowScale.toNat < 2 ^ 64) := by
  constructor
  · change fromJa4t _ = _ ↔ _
    rw [fromJa4t, splitOn_intercalate]
    · simp only [parseBelow_ofNat windowSize.toNat_lt (by decide), Option.bind_eq_bind,
        Option.bind_some, parseBelow_ofNat mss.toNat_lt (by decide), mapM_options,
        parseBelow_ofNat windowScale.toNat_lt (by decide), UInt32.ofNat_toNat, UInt8.ofNat_toNat]
      split <;> simp_all
    · simp [not_mem_options, not_mem_ofNat]
    · simp
  · constructor
    · intro hexact
      refine ⟨hexact.shift, ?_⟩
      rw [← hexact.bits]
      exact Nat.mod_lt _ (by decide)
    · rintro ⟨hshift, hfits⟩
      have hbits : target windowSize windowScale = windowSize.toNat * 2 ^ windowScale.toNat := by
        rw [target, Nat.mod_eq_of_lt hshift, Nat.mod_eq_of_lt hfits]
      refine ⟨hshift, hbits, ?_⟩
      intro linux
      cases linux <;> simp [computeRecvBuf, hbits]

/-- A fingerprint without options is not read back, and a shift by 64 is lost. -/
theorem empty_options_and_wide_shift :
    let fingerprint : TcpFingerprint := ⟨some 65535, some [], some 1460, some 64⟩
    (fingerprint.toJa4t.bind fromJa4t).isNone ∧ fingerprint.computeRecvBuf false = some 65535 := by
  decide +kernel

end TcpFingerprint

end LkRequest.Client
