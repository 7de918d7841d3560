import Mathlib.Data.List.Basic

namespace RustTgCalls.Media

/-! `tokenize_shell`, which reads its command line byte by byte. -/

namespace ShellSource

def quote : UInt8 := 0x22

def backslash : UInt8 := 0x5c

def isSpace (c : UInt8) : Bool :=
  c == 0x20 || c == 0x09 || c == 0x0a

/-- `s.as_bytes()` -/
def asBytes (s : List Char) : List UInt8 := s.flatMap String.utf8EncodeChar

/-- `byte as char`: the code point of that number. -/
def asChar (byte : UInt8) : Char := Char.ofNat byte.toNat

/-- The locals of the loop. -/
structure Tokens where
  out : List String
  cur : List Char
  inQuote : Bool
  deriving DecidableEq, Repr

namespace Tokens

def push (tokens : Tokens) (c : UInt8) : Tokens :=
  { tokens with cur := tokens.cur ++ [asChar c] }

def flush (tokens : Tokens) : Tokens :=
  if tokens.cur = [] then tokens
  else
    { tokens with
      out := tokens.out ++ [String.ofList tokens.cur]
      cur := [] }

/-- The `match` on a byte that begins no escape. -/
def take (tokens : Tokens) (c : UInt8) : Tokens :=
  if c = quote then { tokens with inQuote := !tokens.inQuote }
  else if isSpace c && !tokens.inQuote then tokens.flush
  else tokens.push c

def scan (tokens : Tokens) : List UInt8 → Tokens
  | [] => tokens
  | [c] => tokens.take c
  | c :: next :: rest =>
      if c = backslash ∧ (next = quote ∨ next = backslash) then
        (tokens.push next).scan rest
      else (tokens.take c).scan (next :: rest)

end Tokens

def tokenizeShell (s : String) : List String :=
  ((⟨[], [], false⟩ : Tokens).scan (asBytes s.toList)).flush.out

/-! The command line that quotes each token. -/

def escapeChar (c : Char) : List Char :=
  if c = '\\' ∨ c = '"' then ['\\', c] else [c]

def quoted (token : String) : List Char :=
  '"' :: token.toList.flatMap escapeChar ++ ['"']

def commandLine (tokens : List String) : String :=
  String.ofList ([' '].intercalate (tokens.map quoted))

def isAscii (c : Char) : Bool := decide (c.val.toNat ≤ 0x7f)

/-- What becomes of a token: each byte of its encoding is a character. -/
def widened (token : String) : String :=
  String.ofList ((asBytes token.toList).map asChar)

/-! The bytes of a character. -/

theorem asBytes_append (first second : List Char) :
    asBytes (first ++ second) = asBytes first ++ asBytes second :=
  List.flatMap_append

theorem encode_ascii {c : Char} (hascii : isAscii c = true) :
    String.utf8EncodeChar c = [UInt8.ofNat c.val.toNat] := by
  have hsmall : c.val.toNat ≤ 0x7f := by simpa [isAscii] using hascii
  simp only [String.utf8EncodeChar, if_pos hsmall]

/-- A character beyond ASCII has only bytes beyond it. -/
theorem encode_wide {c : Char} (hwide : isAscii c = false) :
    ∀ byte ∈ String.utf8EncodeChar c, 0x80 ≤ byte.toNat := by
  have hlarge : ¬ c.val.toNat ≤ 0x7f := by simpa [isAscii] using hwide
  intro byte hbyte
  simp only [String.utf8EncodeChar, if_neg hlarge] at hbyte
  split at hbyte
  · simp only [List.mem_cons, List.not_mem_nil, or_false] at hbyte
    rcases hbyte with rfl | rfl <;> simp only [UInt8.toNat_ofNat'] <;> omega
  · split at hbyte
    · simp only [List.mem_cons, List.not_mem_nil, or_false] at hbyte
      rcases hbyte with rfl | rfl | rfl <;> simp only [UInt8.toNat_ofNat'] <;> omega
    · simp only [List.mem_cons, List.not_mem_nil, or_false] at hbyte
      rcases hbyte with rfl | rfl | rfl | rfl <;>
        simp only [UInt8.toNat_ofNat'] <;> omega

theorem asChar_ascii {c : Char} (hascii : isAscii c = true) :
    asChar (UInt8.ofNat c.val.toNat) = c := by
  have hsmall : c.val.toNat ≤ 0x7f := by simpa [isAscii] using hascii
  have hbyte : (UInt8.ofNat c.val.toNat).toNat = c.val.toNat := by
    simp only [UInt8.toNat_ofNat']
    omega
  rw [asChar, hbyte]
  exact Char.ofNat_toNat c

/-- A byte that neither quotes nor escapes. -/
def isPlain (byte : UInt8) : Bool := byte != quote && byte != backslash

theorem encode_plain {c : Char} (hquote : c ≠ '"') (hbackslash : c ≠ '\\') :
    ∀ byte ∈ String.utf8EncodeChar c, isPlain byte = true := by
  intro byte hbyte
  cases hascii : isAscii c with
  | true =>
      rw [encode_ascii hascii, List.mem_singleton] at hbyte
      have hchar : asChar byte = c := hbyte ▸ asChar_ascii hascii
      simp only [isPlain, Bool.and_eq_true, bne_iff_ne]
      constructor
      · rintro rfl
        exact hquote hchar.symm
      · rintro rfl
        exact hbackslash hchar.symm
  | false =>
      have hlarge := encode_wide hascii byte hbyte
      simp only [isPlain, Bool.and_eq_true, bne_iff_ne]
      constructor
      · rintro rfl
        exact absurd hlarge (by decide)
      · rintro rfl
        exact absurd hlarge (by decide)

/-! The scan of one quoted token, from its opening quote to its closing one. -/

namespace Tokens

def pushAll (tokens : Tokens) (bytes : List UInt8) : Tokens :=
  { tokens with cur := tokens.cur ++ bytes.map asChar }

theorem scan_take (tokens : Tokens) {c : UInt8} (hplain : c ≠ backslash)
    (rest : List UInt8) :
    tokens.scan (c :: rest) = (tokens.take c).scan rest := by
  cases rest with
  | nil => rfl
  | cons next rest => simp [scan, hplain]

theorem scan_escape (tokens : Tokens) {next : UInt8}
    (hnext : next = quote ∨ next = backslash) (rest : List UInt8) :
    tokens.scan (backslash :: next :: rest) = (tokens.push next).scan rest := by
  rw [scan, if_pos ⟨rfl, hnext⟩]

theorem take_inQuote {tokens : Tokens} (hquoted : tokens.inQuote = true)
    {c : UInt8} (hquote : c ≠ quote) : tokens.take c = tokens.push c := by
  simp [take, hquote, hquoted]

theorem scan_plain {bytes : List UInt8} {tokens : Tokens}
    (hquoted : tokens.inQuote = true)
    (hplain : ∀ byte ∈ bytes, isPlain byte = true) (rest : List UInt8) :
    tokens.scan (bytes ++ rest) = (tokens.pushAll bytes).scan rest := by
  induction bytes generalizing tokens with
  | nil => simp [pushAll]
  | cons byte bytes ih =>
      have hbyte := hplain byte List.mem_cons_self
      simp only [isPlain, Bool.and_eq_true, bne_iff_ne] at hbyte
      obtain ⟨hquote, hbackslash⟩ := hbyte
      have hrest (byte : UInt8) (hmem : byte ∈ bytes) : isPlain byte = true :=
        hplain byte (List.mem_cons_of_mem _ hmem)
      have hpushed : (tokens.push byte).inQuote = true := hquoted
      rw [List.cons_append, scan_take tokens hbackslash,
        take_inQuote hquoted hquote, ih hpushed hrest]
      simp [push, pushAll]

theorem scan_escapeChar {tokens : Tokens} (hquoted : tokens.inQuote = true)
    (c : Char) (rest : List UInt8) :
    tokens.scan (asBytes (escapeChar c) ++ rest) =
      (tokens.pushAll (String.utf8EncodeChar c)).scan rest := by
  by_cases hbackslash : c = '\\'
  · subst hbackslash
    exact scan_escape tokens (.inr rfl) rest
  · by_cases hquote : c = '"'
    · subst hquote
      exact scan_escape tokens (.inl rfl) rest
    · have hbytes : asBytes (escapeChar c) = String.utf8EncodeChar c := by
        simp [escapeChar, hbackslash, hquote, asBytes]
      rw [hbytes]
      exact scan_plain hquoted (encode_plain hquote hbackslash) rest

theorem scan_escaped {chars : List Char} {tokens : Tokens}
    (hquoted : tokens.inQuote = true) (rest : List UInt8) :
    tokens.scan (asBytes (chars.flatMap escapeChar) ++ rest) =
      (tokens.pushAll (asBytes chars)).scan rest := by
  induction chars generalizing tokens with
  | nil => simp [asBytes, pushAll]
  | cons c chars ih =>
      have hpushed : (tokens.pushAll (String.utf8EncodeChar c)).inQuote = true :=
        hquoted
      rw [List.flatMap_cons, asBytes_append, List.append_assoc,
        scan_escapeChar hquoted, ih hpushed]
      simp [pushAll, asBytes]

theorem scan_quoted (out : List String) (token : String) (rest : List UInt8) :
    (⟨out, [], false⟩ : Tokens).scan (asBytes (quoted token) ++ rest) =
      (⟨out, (asBytes token.toList).map asChar, false⟩ : Tokens).scan rest := by
  have hbytes : asBytes (quoted token) ++ rest =
      quote :: (asBytes (token.toList.flatMap escapeChar) ++ (quote :: rest)) := by
    have hopen : asBytes ['"'] = [quote] := rfl
    have hquoted : quoted token =
        ['"'] ++ (token.toList.flatMap escapeChar ++ ['"']) := rfl
    rw [hquoted, asBytes_append, asBytes_append, hopen, List.singleton_append,
      List.cons_append, List.append_assoc, List.singleton_append]
  rw [hbytes, scan_take _ (by decide)]
  change (⟨out, [], true⟩ : Tokens).scan _ = _
  rw [scan_escaped rfl, scan_take _ (by decide)]
  rfl

end Tokens

theorem flush_widened (out : List String) {token : String} (hsome : token ≠ "") :
    (⟨out, (asBytes token.toList).map asChar, false⟩ : Tokens).flush =
      ⟨out ++ [widened token], [], false⟩ := by
  have hcur : (asBytes token.toList).map asChar ≠ [] := by
    have hlist : token.toList ≠ [] := by simpa using hsome
    obtain ⟨c, rest, hcons⟩ := List.exists_cons_of_ne_nil hlist
    simp [hcons, asBytes]
  simp [Tokens.flush, hcur, widened]

/-- Between two tokens, the space ends the first. -/
theorem scan_commandLine (out : List String) (token : String)
    (rest : List String) (hsome : ∀ each ∈ token :: rest, each ≠ "") :
    ((⟨out, [], false⟩ : Tokens).scan
        (asBytes ([' '].intercalate ((token :: rest).map quoted)))).flush.out =
      out ++ (token :: rest).map widened := by
  have htoken := hsome token List.mem_cons_self
  induction rest generalizing out token with
  | nil =>
      have hscan := Tokens.scan_quoted out token []
      rw [List.append_nil] at hscan
      simp only [List.map_cons, List.map_nil, List.intercalate_singleton]
      rw [hscan, Tokens.scan, flush_widened out htoken]
  | cons next rest ih =>
      have hrest (each : String) (hmem : each ∈ next :: rest) : each ≠ "" :=
        hsome each (List.mem_cons_of_mem _ hmem)
      have hspace : asBytes [' '] = [0x20] := rfl
      rw [List.map_cons, List.map_cons, List.intercalate_cons_cons,
        List.append_assoc, asBytes_append, asBytes_append, hspace,
        Tokens.scan_quoted, List.singleton_append, Tokens.scan_take _ (by decide)]
      change ((⟨out, _, false⟩ : Tokens).flush.scan _).flush.out = _
      rw [flush_widened out htoken, ← List.map_cons,
        ih (out ++ [widened token]) next hrest (hrest next List.mem_cons_self)]
      simp

theorem tokenizeShell_commandLine {tokens : List String}
    (hsome : ∀ token ∈ tokens, token ≠ "") :
    tokenizeShell (commandLine tokens) = tokens.map widened := by
  cases tokens with
  | nil => rfl
  | cons token rest =>
      have hscan := scan_commandLine [] token rest hsome
      simpa [tokenizeShell, commandLine] using hscan

/-! A token survives exactly if it is ASCII. -/

theorem widened_ascii {token : String}
    (hascii : ∀ c ∈ token.toList, isAscii c = true) : widened token = token := by
  have hchars (chars : List Char) (hchars : ∀ c ∈ chars, isAscii c = true) :
      (asBytes chars).map asChar = chars := by
    induction chars with
    | nil => rfl
    | cons c chars ih =>
        have hc := hchars c List.mem_cons_self
        have hrest (each : Char) (hmem : each ∈ chars) : isAscii each = true :=
          hchars each (List.mem_cons_of_mem _ hmem)
        have hbytes : asBytes (c :: chars) =
            UInt8.ofNat c.val.toNat :: asBytes chars := by
          rw [asBytes, List.flatMap_cons, encode_ascii hc]
          rfl
        rw [hbytes, List.map_cons, asChar_ascii hc, ih hrest]
  rw [widened, hchars token.toList hascii, String.ofList_toList]

theorem length_asBytes_le (chars : List Char) :
    chars.length ≤ (asBytes chars).length := by
  induction chars with
  | nil => exact Nat.le_refl _
  | cons c chars ih =>
      have hpos := c.utf8Size_pos
      simp only [asBytes, List.flatMap_cons, List.length_append,
        String.length_utf8EncodeChar, List.length_cons] at ih ⊢
      omega

theorem one_lt_encode {c : Char} (hwide : isAscii c = false) :
    1 < (String.utf8EncodeChar c).length := by
  have hlarge : ¬ c.val.toNat ≤ 0x7f := by simpa [isAscii] using hwide
  simp only [String.utf8EncodeChar, if_neg hlarge]
  split
  · exact Nat.lt_succ_self 1
  · split <;> simp

theorem length_asBytes_lt {chars : List Char} {c : Char} (hmem : c ∈ chars)
    (hwide : isAscii c = false) : chars.length < (asBytes chars).length := by
  obtain ⟨before, behind, rfl⟩ := List.append_of_mem hmem
  have hbefore := length_asBytes_le before
  have hbehind := length_asBytes_le behind
  have hc := one_lt_encode hwide
  have hbytes : asBytes (before ++ c :: behind) =
      asBytes before ++ (String.utf8EncodeChar c ++ asBytes behind) := by
    rw [asBytes_append]
    rfl
  rw [hbytes]
  simp only [List.length_append, List.length_cons]
  omega

theorem widened_eq_iff (token : String) :
    widened token = token ↔ ∀ c ∈ token.toList, isAscii c = true := by
  constructor
  · intro hsame c hmem
    by_contra hnot
    have hlonger := length_asBytes_lt hmem (by simpa using hnot)
    have hlength := congrArg (fun text => text.toList.length) hsame
    simp only [widened, String.toList_ofList, List.length_map] at hlength
    omega
  · exact widened_ascii

/-- The tokens come back from their command line exactly if they are all ASCII. -/
theorem tokenizeShell_commandLine_iff (tokens : List String)
    (hsome : ∀ token ∈ tokens, token ≠ "") :
    tokenizeShell (commandLine tokens) = tokens ↔
      ∀ token ∈ tokens, ∀ c ∈ token.toList, isAscii c = true := by
  rw [tokenizeShell_commandLine hsome]
  simp only [← widened_eq_iff]
  conv_lhs => rw [← List.map_id tokens, List.map_map]
  exact List.map_inj_left

theorem tokenizeShell_threeTokens :
    tokenizeShell (commandLine ["ffmpeg", "-i", "a \"b\" c:\\"]) =
        ["ffmpeg", "-i", "a \"b\" c:\\"] ↔
      ∀ token ∈ ["ffmpeg", "-i", "a \"b\" c:\\"], ∀ c ∈ token.toList,
        isAscii c = true :=
  tokenizeShell_commandLine_iff _ (by decide)

theorem accented_token_splits :
    ¬ ∀ tokens : List String, (∀ token ∈ tokens, token ≠ "") →
      tokenizeShell (commandLine tokens) = tokens := by
  intro hinverts
  have hsame := hinverts ["é"] (by decide)
  exact absurd hsame (by decide)

end ShellSource

end RustTgCalls.Media
