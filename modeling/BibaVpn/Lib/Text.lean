/-
# Strings, as the code's `str` sees them

A `str` is a list of characters here.  What the code asks of it is its length in BYTES, whether a
character is white space or a control character (by the Unicode properties that `char` uses), the
`trim` functions, the ASCII lower case, how it is split and read as a number, and which labels it
has as a name.
-/
import Mathlib.Data.List.DropRight
import Mathlib.Tactic.Common
import BibaVpn.Lib.Machine

/-- A `String` or `&str`. -/
abbrev Text := List Char

namespace Text

open Machine

/-- `char::is_whitespace`: the property `White_Space`. -/
def isWhitespace (c : Char) : Bool :=
  let n := c.toNat
  (9 ≤ n && n ≤ 13) || n == 0x20 || n == 0x85 || n == 0xA0 || n == 0x1680 ||
    (0x2000 ≤ n && n ≤ 0x200A) || n == 0x2028 || n == 0x2029 || n == 0x202F || n == 0x205F ||
    n == 0x3000

/-- `char::is_control`: the category `Cc`. -/
def isControl (c : Char) : Bool := c.toNat < 0x20 || (0x7F ≤ c.toNat && c.toNat ≤ 0x9F)

/-- `str::trim`. -/
def trim (s : Text) : Text := (s.dropWhile isWhitespace).rdropWhile isWhitespace

/-- `str::trim_start_matches` of one character. -/
def trimStartMatches (c : Char) (s : Text) : Text := s.dropWhile (· == c)

/-- `str::trim_end_matches` of one character. -/
def trimEndMatches (c : Char) (s : Text) : Text := s.rdropWhile (· == c)

/-- `str::to_ascii_lowercase`. -/
def toAsciiLowercase (s : Text) : Text := s.map Char.toLower

/-- `str::eq_ignore_ascii_case`. -/
def eqIgnoreAsciiCase (s t : Text) : Bool := toAsciiLowercase s == toAsciiLowercase t

/-- `str::as_bytes`. -/
def toUtf8 (s : Text) : Bytes := s.flatMap String.utf8EncodeChar

/-- `str::len`. -/
def len (s : Text) : Nat := (toUtf8 s).length

/-- `std::str::from_utf8`. -/
def fromUtf8 (bs : Bytes) : Option Text := bs.toByteArray.utf8Decode?.map Array.toList

/-- `str::split_once` of one character. -/
def splitOnce (c : Char) (s : Text) : Option (Text × Text) :=
  if c ∈ s then some (s.takeWhile (· != c), (s.dropWhile (· != c)).tail) else none

/-- `str::rfind` of one character, and `split_at` there. -/
def splitAtLast (c : Char) (s : Text) : Option (Text × Text) :=
  if c ∈ s then
    some ((s.reverse.dropWhile (· != c)).tail.reverse, c :: (s.reverse.takeWhile (· != c)).reverse)
  else none

/-- `str::strip_prefix` of one character, and `strip_suffix` of another. -/
def stripEnds (a b : Char) : Text → Option Text
  | c :: r => if c = a ∧ r.getLast? = some b then some r.dropLast else none
  | [] => none

/-- `str::replace` of one character by another. -/
def replaceChar (a b : Char) (s : Text) : Text := s.map fun c => if c = a then b else c

/-- A line without the carriage return at its end. -/
def stripReturn (s : Text) : Text := if s.getLast? = some '\r' then s.dropLast else s

/-- `str::lines`. -/
def lines (s : Text) : List Text :=
  let pieces := s.splitOn '\n'
  pieces.dropLast.map stripReturn ++ (pieces.getLast?.toList.filter fun l => !l.isEmpty)

/-- The digits of `str::parse` into an unsigned integer whose largest value is `top`. -/
def parseDigits (top acc : Nat) : Text → Except String Nat
  | [] => .ok acc
  | c :: cs =>
    if c.isDigit then
      let n := 10 * acc + (c.toNat - 48)
      if n ≤ top then parseDigits top n cs else .error "number too large to fit in target type"
    else .error "invalid digit found in string"

/-- `str::parse` into an unsigned integer whose largest value is `top`. -/
def parseUnsigned (top : Nat) : Text → Except String Nat
  | [] => .error "cannot parse integer from empty string"
  | ['+'] => .error "invalid digit found in string"
  | '+' :: cs => parseDigits top 0 cs
  | cs => parseDigits top 0 cs

/-! ## 1. Bytes -/

@[simp] theorem toUtf8_nil : toUtf8 [] = [] := rfl

@[simp] theorem toUtf8_append (s t : Text) : toUtf8 (s ++ t) = toUtf8 s ++ toUtf8 t :=
  List.flatMap_append

@[simp] theorem len_nil : len [] = 0 := rfl

@[simp] theorem len_append (s t : Text) : len (s ++ t) = len s + len t := by simp [len]

theorem len_cons (c : Char) (s : Text) : len (c :: s) = c.utf8Size + len s := by
  simp [len, toUtf8, String.length_utf8EncodeChar]

variable {s : Text} {c d : Char} {ls : List Text}

/-- A text of ASCII characters has as many bytes as characters. -/
theorem len_eq_length (h : ∀ c ∈ s, c.utf8Size = 1) : len s = s.length := by
  induction s with
  | nil => rfl
  | cons c s ih =>
    rw [len_cons, h c List.mem_cons_self, ih fun c' hc' => h c' (List.mem_cons_of_mem c hc'),
      List.length_cons, Nat.add_comm]

theorem fromUtf8_toUtf8 (s : Text) : fromUtf8 (toUtf8 s) = some s := by
  have hbytes : (toUtf8 s).toByteArray = s.utf8Encode := rfl
  rw [fromUtf8, hbytes, List.utf8Decode?_utf8Encode]
  rfl

/-- A text is read from its own bytes only. -/
theorem toUtf8_of_fromUtf8 {bs : Bytes} (h : fromUtf8 bs = some s) : toUtf8 s = bs := by
  obtain ⟨chars, hdecode, rfl⟩ := Option.map_eq_some_iff.mp h
  obtain ⟨t, ht⟩ := ByteArray.isSome_utf8Decode?_iff.mp (Option.isSome_of_eq_some hdecode)
  rw [ht, List.utf8Decode?_utf8Encode, Option.some.injEq] at hdecode
  have hsame : bs.toByteArray = (toUtf8 t).toByteArray := ht
  have hlists := congrArg (·.data.toList) hsame
  simp only [List.toList_data_toByteArray] at hlists
  rw [← hdecode, hlists]

theorem toUtf8_injective {s t : Text} (h : toUtf8 s = toUtf8 t) : s = t := by
  have hs := fromUtf8_toUtf8 s
  rw [h, fromUtf8_toUtf8] at hs
  exact (Option.some.inj hs).symm

theorem byteArray_toList_loop (a : ByteArray) (i : Nat) (r : List UInt8) :
    ByteArray.toList.loop a i r = r.reverse ++ a.data.toList.drop i := by
  fun_induction ByteArray.toList.loop a i r with
  | case1 i r h ih =>
    have hget : a.data.toList.drop i = a.get! i :: a.data.toList.drop (i + 1) := by
      have hi : i < a.data.toList.length := by simpa using h
      rw [List.drop_eq_getElem_cons hi]
      simp [ByteArray.get!, h]
    rw [ih, hget, List.reverse_cons, List.append_assoc]
    rfl
  | case2 i r h =>
    have hi : a.data.toList.length ≤ i := by simpa using Nat.not_lt.mp h
    rw [List.drop_of_length_le hi, List.append_nil]

/-- The bytes of a `ByteArray`, read off one by one, are those it is made of. -/
theorem byteArray_toList (a : ByteArray) : a.toList = a.data.toList :=
  byteArray_toList_loop a 0 []

/-! ## 2. Trimming -/

theorem trim_of_ends (hhead : ∀ c, s.head? = some c → isWhitespace c = false)
    (hlast : ∀ c, s.getLast? = some c → isWhitespace c = false) : trim s = s := by
  have hdrop : s.dropWhile isWhitespace = s := by
    cases s with
    | nil => rfl
    | cons c s => simp [hhead c rfl]
  rw [trim, hdrop]
  refine List.rdropWhile_eq_self_iff.mpr fun hne => ?_
  rw [hlast _ (List.getLast?_eq_some_getLast hne)]
  exact Bool.false_ne_true

/-- Cutting off the characters `c` at the end does nothing to a text with another last one. -/
theorem trimEndMatches_of_getLast (h : s.getLast? ≠ some c) : trimEndMatches c s = s := by
  refine List.rdropWhile_eq_self_iff.mpr fun hne => ?_
  rw [List.getLast?_eq_some_getLast hne] at h
  simpa using fun heq => h (congrArg some heq)

theorem trimStartMatches_of_head (h : s.head? ≠ some c) : trimStartMatches c s = s := by
  cases s with
  | nil => rfl
  | cons d s =>
    refine List.dropWhile_cons_of_neg ?_
    simpa using fun heq => h (congrArg some heq)

theorem trimEndMatches_append_replicate (c : Char) (s : Text) (n : Nat) :
    trimEndMatches c (s ++ List.replicate n c) = trimEndMatches c s := by
  induction n with
  | zero => rw [List.replicate_zero, List.append_nil]
  | succ n ih =>
    rw [List.replicate_succ', ← List.append_assoc]
    exact (List.rdropWhile_concat_pos _ _ _ (by simp)).trans ih

/-- A text without white space is trimmed. -/
theorem trim_of_solid (h : ∀ c ∈ s, isWhitespace c = false) : trim s = s :=
  trim_of_ends (fun c hc => h c (List.mem_of_head? hc)) (fun c hc => h c (List.mem_of_getLast? hc))

/-- Nothing is left to cut off in front, -/
theorem dropWhile_trim (s : Text) : (trim s).dropWhile isWhitespace = trim s := by
  refine List.dropWhile_eq_self_iff.mpr fun hl => ?_
  -- the first character of `trim s` is the first one that is not white space
  have hpre : trim s <+: s.dropWhile isWhitespace := List.rdropWhile_prefix _ _
  have hne : s.dropWhile isWhitespace ≠ [] := fun he => by
    rw [he, List.prefix_nil] at hpre
    rw [hpre] at hl
    exact absurd hl (Nat.lt_irrefl 0)
  rw [hpre.getElem hl]
  exact List.dropWhile_get_zero_not isWhitespace s (List.length_pos_iff.mpr hne)

theorem trim_trim (s : Text) : trim (trim s) = trim s := by
  rw [trim, dropWhile_trim, trim, List.rdropWhile_idempotent]

theorem head_trim (h : (trim s).head? = some c) : isWhitespace c = false := by
  obtain ⟨rest, hrest⟩ := List.head?_eq_some_iff.mp h
  have hdrop := dropWhile_trim s
  rw [hrest] at hdrop
  rw [Bool.eq_false_iff]
  intro hc
  rw [List.dropWhile_cons_of_pos hc] at hdrop
  have hlen := (List.dropWhile_sublist (l := rest) isWhitespace).length_le
  rw [hdrop, List.length_cons] at hlen
  omega

/-- and nothing behind. -/
theorem getLast_trim (h : (trim s).getLast? = some c) : isWhitespace c = false := by
  have hne : trim s ≠ [] := fun he => by
    rw [he] at h
    cases h
  rw [List.getLast?_eq_some_getLast hne] at h
  cases h
  exact Bool.eq_false_iff.mpr (List.rdropWhile_last_not _ _ hne)

/-- What an optional setting is taken for: `None` if nothing is left of it. -/
def nonBlank (s : Text) : Option Text := if (trim s).isEmpty then none else some (trim s)

theorem nonBlank_eq_some_iff {s t : Text} : nonBlank s = some t ↔ trim s = t ∧ t ≠ [] := by
  unfold nonBlank
  split
  · rename_i h
    rw [List.isEmpty_iff] at h
    simp [h, eq_comm]
  · rename_i h
    rw [List.isEmpty_iff] at h
    constructor
    · intro heq
      cases heq
      exact ⟨rfl, h⟩
    · rintro ⟨rfl, -⟩
      rfl

theorem nonBlank_eq_none_iff : nonBlank s = none ↔ trim s = [] := by
  simp [nonBlank]

@[simp] theorem nonBlank_trim (s : Text) : nonBlank (trim s) = nonBlank s := by
  simp only [nonBlank, trim_trim]

/-- What is left of a setting is left as it is. -/
@[simp] theorem nonBlank_bind_nonBlank (s : Text) : (nonBlank s).bind nonBlank = nonBlank s := by
  cases h : nonBlank s with
  | none => rfl
  | some t =>
    obtain ⟨rfl, -⟩ := nonBlank_eq_some_iff.mp h
    rw [Option.bind_some, nonBlank_trim, h]

/-! ## 3. Lower case -/

/-- A character is its own lower case, or an upper case letter. -/
theorem toLower_cases (c : Char) :
    c.toLower = c ∨ (65 ≤ c.toNat ∧ c.toNat ≤ 90 ∧ c.toLower.toNat = c.toNat + 32) := by
  by_cases h : c.val ≥ 'A'.val ∧ c.val ≤ 'Z'.val
  · refine .inr ⟨h.1, h.2, ?_⟩
    have h2 : c.val.toNat ≤ 90 := h.2
    unfold Char.toLower
    rw [dif_pos h]
    show (c.val + 32).toNat = c.val.toNat + 32
    rw [UInt32.toNat_add]
    show (c.val.toNat + 32) % 2 ^ 32 = _
    omega
  · exact .inl (dif_neg h)

theorem toLower_toLower (c : Char) : c.toLower.toLower = c.toLower := by
  rcases toLower_cases c with h | ⟨h1, h2, h3⟩
  · rw [h, h]
  · rcases toLower_cases c.toLower with h' | ⟨h1', h2', -⟩
    · exact h'
    · omega

/-- A character outside the letters is the lower case of itself only. -/
theorem toLower_eq_iff (hd : d.toNat < 65) (c : Char) : c.toLower = d ↔ c = d := by
  rcases toLower_cases c with h | ⟨h1, -, h3⟩
  · rw [h]
  · constructor <;> intro heq <;> subst heq <;> omega

theorem beq_comp_toLower (hd : d.toNat < 65) : ((· == d) ∘ Char.toLower) = (· == d) := by
  funext c
  rw [Function.comp_apply, Bool.eq_iff_iff, beq_iff_eq, beq_iff_eq]
  exact toLower_eq_iff hd c

@[simp] theorem toAsciiLowercase_toAsciiLowercase (s : Text) :
    toAsciiLowercase (toAsciiLowercase s) = toAsciiLowercase s :=
  List.map_map.trans (List.map_congr_left fun c _ => toLower_toLower c)

/-- Lower case and cutting off characters outside the letters commute. -/
theorem trimEndMatches_toAsciiLowercase (hd : d.toNat < 65) (s : Text) :
    trimEndMatches d (toAsciiLowercase s) = toAsciiLowercase (trimEndMatches d s) := by
  simp only [trimEndMatches, toAsciiLowercase, List.rdropWhile, ← List.map_reverse,
    List.dropWhile_map, beq_comp_toLower hd]

@[simp] theorem trimEndMatches_trimEndMatches (d : Char) (s : Text) :
    trimEndMatches d (trimEndMatches d s) = trimEndMatches d s := List.rdropWhile_idempotent _ s

/-- Lower case makes no white space. -/
theorem isWhitespace_toLower (h : isWhitespace c = false) : isWhitespace c.toLower = false := by
  rcases toLower_cases c with heq | ⟨h1, h2, h3⟩
  · rw [heq, h]
  · simp only [isWhitespace, h3, Bool.or_eq_false_iff, Bool.and_eq_false_iff,
      decide_eq_false_iff_not, beq_eq_false_iff_ne]
    omega

theorem trim_toAsciiLowercase_trim (s : Text) :
    trim (toAsciiLowercase (trim s)) = toAsciiLowercase (trim s) := by
  refine trim_of_ends (fun c hc => ?_) (fun c hc => ?_)
  · rw [toAsciiLowercase, List.head?_map] at hc
    obtain ⟨c', hc', rfl⟩ := Option.map_eq_some_iff.mp hc
    exact isWhitespace_toLower (head_trim hc')
  · rw [toAsciiLowercase, List.getLast?_map] at hc
    obtain ⟨c', hc', rfl⟩ := Option.map_eq_some_iff.mp hc
    exact isWhitespace_toLower (getLast_trim hc')

/-- Lower case and cutting off characters outside the letters in front commute. -/
theorem trimStartMatches_toAsciiLowercase (hd : d.toNat < 65) (s : Text) :
    trimStartMatches d (toAsciiLowercase s) = toAsciiLowercase (trimStartMatches d s) := by
  simp only [trimStartMatches, toAsciiLowercase, List.dropWhile_map, beq_comp_toLower hd]

/-! ## 4. Numbers -/

theorem parseDigits_le {top : Nat} {acc n : Nat} (hacc : acc ≤ top)
    (h : parseDigits top acc s = .ok n) : n ≤ top := by
  induction s generalizing acc with
  | nil => cases h; exact hacc
  | cons c cs ih =>
    simp only [parseDigits] at h
    split at h
    · split at h
      · exact ih ‹_› h
      · cases h
    · cases h

/-- A number that was parsed is in the range of its type. -/
theorem parseUnsigned_le {top : Nat} {n : Nat} (h : parseUnsigned top s = .ok n) : n ≤ top := by
  unfold parseUnsigned at h
  split at h
  · cases h
  · cases h
  · exact parseDigits_le (Nat.zero_le _) h
  · exact parseDigits_le (Nat.zero_le _) h

/-! ## 5. Labels -/

/-- The labels of a name, between its points. -/
def labels (s : Text) : List Text := s.splitOn '.'

/-- The name with these labels. -/
def ofLabels (ls : List Text) : Text := ['.'].intercalate ls

theorem ofLabels_labels (s : Text) : ofLabels (labels s) = s := List.intercalate_splitOn '.'

theorem labels_ofLabels (hne : ls ≠ []) (hls : ∀ l ∈ ls, '.' ∉ l) :
    labels (ofLabels ls) = ls := List.splitOn_intercalate '.' hls hne

theorem labels_ne_nil (s : Text) : labels s ≠ [] := List.splitOnP_ne_nil _ s

theorem labels_append (s t : Text) : labels (s ++ '.' :: t) = labels s ++ labels t :=
  List.splitOnP_append_cons s t rfl

theorem ofLabels_cons {l : Text} (hls : ls ≠ []) :
    ofLabels (l :: ls) = l ++ '.' :: ofLabels ls := by
  rw [ofLabels, List.intercalate_cons_of_ne_nil hls, List.append_assoc]
  rfl

theorem ofLabels_append {ks ls : List Text} (hks : ks ≠ []) (hls : ls ≠ []) :
    ofLabels (ks ++ ls) = ofLabels ks ++ '.' :: ofLabels ls := by
  induction ks with
  | nil => exact absurd rfl hks
  | cons k ks ih =>
    cases ks with
    | nil => exact (ofLabels_cons hls).trans (by simp [ofLabels])
    | cons k' ks =>
      have hcons : ofLabels (k :: k' :: ks) = k ++ '.' :: ofLabels (k' :: ks) :=
        ofLabels_cons (by simp)
      rw [List.cons_append, ofLabels_cons (by simp), ih (by simp), hcons, List.append_assoc]
      rfl

/-- **A suffix of the labels is the whole name, or what follows a point.** -/
theorem labels_suffix_iff (s t : Text) : labels t <:+ labels s ↔ s = t ∨ ('.' :: t) <:+ s := by
  constructor
  · rintro ⟨ks, hks⟩
    have hs := congrArg ofLabels hks
    rw [ofLabels_labels] at hs
    rcases ks with - | ⟨k, ks⟩
    · rw [List.nil_append, ofLabels_labels] at hs
      exact .inl hs.symm
    · rw [ofLabels_append (by simp) (labels_ne_nil t), ofLabels_labels] at hs
      exact .inr ⟨_, hs⟩
  · rintro (rfl | ⟨front, rfl⟩)
    · exact List.suffix_refl _
    · rw [labels_append]
      exact List.suffix_append _ _

theorem toAsciiLowercase_ofLabels (ls : List Text) :
    toAsciiLowercase (ofLabels ls) = ofLabels (ls.map toAsciiLowercase) := by
  induction ls with
  | nil => rfl
  | cons l ls ih =>
    cases ls with
    | nil => simp [ofLabels]
    | cons l' ls =>
      have hcons : ofLabels (l :: l' :: ls) = l ++ '.' :: ofLabels (l' :: ls) :=
        ofLabels_cons (by simp)
      have hlower : ofLabels (toAsciiLowercase l :: (l' :: ls).map toAsciiLowercase) =
          toAsciiLowercase l ++ '.' :: ofLabels ((l' :: ls).map toAsciiLowercase) :=
        ofLabels_cons (by simp)
      rw [hcons, List.map_cons, hlower, ← ih]
      simp only [toAsciiLowercase, List.map_append, List.map_cons]
      rfl

/-- A name without empty labels does not begin with a point, -/
theorem head_ofLabels (hne : ls ≠ []) (hls : ∀ l ∈ ls, '.' ∉ l ∧ l ≠ []) :
    (ofLabels ls).head? ≠ some '.' := by
  intro h
  obtain ⟨rest, hrest⟩ := List.head?_eq_some_iff.mp h
  have hlabels := labels_ofLabels hne fun l hl => (hls l hl).1
  rw [hrest] at hlabels
  have hnil : [] ∈ ls := by
    rw [← hlabels]
    have := labels_append [] rest
    rw [List.nil_append] at this
    rw [this]
    exact List.mem_append_left _ (List.mem_singleton.mpr rfl)
  exact (hls [] hnil).2 rfl

/-- nor does it end with one. -/
theorem getLast_ofLabels (hne : ls ≠ []) (hls : ∀ l ∈ ls, '.' ∉ l ∧ l ≠ []) :
    (ofLabels ls).getLast? ≠ some '.' := by
  intro h
  obtain ⟨front, hfront⟩ := List.getLast?_eq_some_iff.mp h
  have hlabels := labels_ofLabels hne fun l hl => (hls l hl).1
  rw [hfront, labels_append] at hlabels
  have hnil : [] ∈ ls := by
    rw [← hlabels]
    exact List.mem_append_right _ (List.mem_singleton.mpr rfl)
  exact (hls [] hnil).2 rfl

theorem ofLabels_ne_nil (hne : ls ≠ []) (hls : ∀ l ∈ ls, '.' ∉ l ∧ l ≠ []) : ofLabels ls ≠ [] := by
  intro h
  have hlabels := labels_ofLabels hne fun l hl => (hls l hl).1
  rw [h] at hlabels
  have hnil : [] ∈ ls := by
    rw [← hlabels]
    exact List.mem_singleton.mpr rfl
  exact (hls [] hnil).2 rfl

theorem mem_ofLabels (h : c ∈ ofLabels ls) : c = '.' ∨ ∃ l ∈ ls, c ∈ l := by
  induction ls with
  | nil => cases h
  | cons l ls ih =>
    cases ls with
    | nil =>
      rw [ofLabels, List.intercalate_singleton] at h
      exact .inr ⟨l, List.mem_singleton.mpr rfl, h⟩
    | cons l' ls =>
      rw [ofLabels_cons (by simp)] at h
      rcases List.mem_append.mp h with hl | hrest
      · exact .inr ⟨l, List.mem_cons_self, hl⟩
      · rcases List.mem_cons.mp hrest with hdot | hrest
        · exact .inl hdot
        · exact (ih hrest).imp_right fun ⟨k, hk, hc⟩ => ⟨k, List.mem_cons_of_mem l hk, hc⟩

end Text
