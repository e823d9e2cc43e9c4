/-
# What the entries of a bypass list mean

The lists that are installed with `set_bypass_domains` write a domain in three forms: `d`, `.d` and
`*.d`.  All three are to stand for a set of names, in terms of LABELS: `h` is `d` or a subdomain of
it if the labels of `d` are the last labels of `h`.  The code compares trimmed strings.

* §1 is the forms, §2 the comparison of `matches_bypass` in terms of labels: it never matches across
  a point, and `d` and `.d` mean what they should;
* §3 is the result.  An entry `*.d` is taken literally: its first label is a star, which no name
  has, so it matches none of the subdomains that it is written for.
-/
import BibaVpn.Client.SplitTunnel
import BibaVpn.Client.StartJson

namespace BibaVpn.Client

open Machine Lts Wire Udp.Client

/-! ## 1. Entries -/

/-- How an entry is written. -/
inductive Form
  | bare
  | dotted
  | wildcard
  deriving DecidableEq, Repr

def Form.lead : Form → Text
  | .bare => []
  | .dotted => ['.']
  | .wildcard => ['*', '.']

/-- **A domain**, by its labels. -/
structure Domain where
  labels : List Text
  ne_nil : labels ≠ []
  solid : ∀ l ∈ labels, l ≠ [] ∧ ∀ c ∈ l, c ≠ '.' ∧ c ≠ '*' ∧ Text.isWhitespace c = false

/-- An entry of a list, with the points behind it. -/
structure BypassEntry where
  form : Form
  domain : Domain
  dots : Nat

def BypassEntry.text (e : BypassEntry) : Text :=
  e.form.lead ++ Text.ofLabels e.domain.labels ++ List.replicate e.dots '.'

/-- The labels of a domain, in lower case. -/
def Domain.lower (d : Domain) : List Text := d.labels.map Text.toAsciiLowercase

/-- The labels of a host name, without regard to case and to points at its end. -/
def hostLabels (host : Text) : List Text := Text.labels (normalizeDomain host)

/-- The host is the domain of the entry, or a subdomain of it. -/
def BypassEntry.Covers (e : BypassEntry) (host : Text) : Prop := e.domain.lower <:+ hostLabels host

/-- **What the entry is for**: a wildcard is for the proper subdomains at least. -/
def BypassEntry.MeantFor (e : BypassEntry) (host : Text) : Prop :=
  e.Covers host ∧ (e.form = .wildcard → e.domain.lower ≠ hostLabels host)

/-- The labels that the code looks for. -/
def BypassEntry.pattern (e : BypassEntry) : List Text :=
  match e.form with
  | .wildcard => ['*'] :: e.domain.lower
  | _ => e.domain.lower

/-- **What the entry does.** -/
def BypassEntry.Matches (e : BypassEntry) (host : Text) : Prop := e.pattern <:+ hostLabels host

instance (e : BypassEntry) (host : Text) : Decidable (e.Matches host) :=
  inferInstanceAs (Decidable (_ <:+ _))

/-! ## 2. The comparison -/

/-- What `matches_bypass` makes of an entry. -/
def bypassPattern (raw : Text) : Text :=
  Text.toAsciiLowercase (Text.trimEndMatches '.' (Text.trimStartMatches '.' (Text.trim raw)))

/-- **`matches_bypass` compares labels.** -/
theorem matchesBypass_iff (host : Text) (bypass : List Text) :
    matchesBypass host bypass = true ↔
      ∃ raw ∈ bypass, bypassPattern raw ≠ [] ∧
      Text.labels (bypassPattern raw) <:+ hostLabels host := by
  have hone : ∀ b : Text, b ≠ [] → (('.' :: b).isSuffixOf (normalizeDomain host) = true ∨
      normalizeDomain host = b ↔ Text.labels b <:+ hostLabels host) := by
    intro b _
    rw [hostLabels, Text.labels_suffix_iff, List.isSuffixOf_iff_suffix, or_comm]
  simp only [matchesBypass, Bool.and_eq_true, Bool.not_eq_true', List.isEmpty_eq_false_iff,
    List.any_eq_true, Bool.or_eq_true, beq_iff_eq]
  constructor
  · rintro ⟨-, raw, hraw, hne, hmatch⟩
    exact ⟨raw, hraw, hne, (hone _ hne).mp hmatch.symm⟩
  · rintro ⟨raw, hraw, hne, hsuffix⟩
    have hmatch := (hone _ hne).mpr hsuffix
    refine ⟨?_, raw, hraw, hne, hmatch.symm⟩
    -- an empty name is no entry, and ends with none
    intro hnil
    rw [hnil] at hmatch
    rcases hmatch with hmatch | hmatch
    · exact absurd hmatch (by simp)
    · exact hne hmatch.symm

/-- Cleaning an entry beforehand does not change what is made of it. -/
theorem bypassPattern_cleaned (raw : Text) :
    bypassPattern (Text.toAsciiLowercase (Text.trim raw)) = bypassPattern raw := by
  rw [bypassPattern, bypassPattern, Text.trim_toAsciiLowercase_trim,
    Text.trimStartMatches_toAsciiLowercase (by decide),
    Text.trimEndMatches_toAsciiLowercase (by decide), Text.toAsciiLowercase_toAsciiLowercase]

/-- The installed list decides like the given one. -/
theorem matchesBypass_cleaned (host : Text) (domains : List Text) :
    matchesBypass host (cleanedDomains domains) = matchesBypass host domains := by
  rw [Bool.eq_iff_iff, matchesBypass_iff, matchesBypass_iff]
  constructor
  · rintro ⟨raw, hraw, hne, hsuffix⟩
    obtain ⟨d, hd, rfl⟩ := List.mem_map.mp (List.mem_filter.mp hraw).1
    rw [bypassPattern_cleaned] at hne hsuffix
    exact ⟨d, hd, hne, hsuffix⟩
  · rintro ⟨raw, hraw, hne, hsuffix⟩
    rw [← bypassPattern_cleaned] at hne hsuffix
    refine ⟨_, List.mem_filter.mpr ⟨List.mem_map_of_mem hraw, ?_⟩, hne, hsuffix⟩
    rw [Bool.not_eq_true', List.isEmpty_eq_false_iff]
    intro hnil
    rw [hnil] at hne
    exact hne rfl

/-! ### The three forms -/

theorem Domain.separate (d : Domain) (l : Text) (hl : l ∈ d.labels) : '.' ∉ l ∧ l ≠ [] :=
  ⟨fun hc => ((d.solid l hl).2 '.' hc).1 rfl, (d.solid l hl).1⟩

theorem Domain.separate_lower (d : Domain) (l : Text) (hl : l ∈ d.lower) : '.' ∉ l ∧ l ≠ [] := by
  obtain ⟨k, hk, rfl⟩ := List.mem_map.mp hl
  refine ⟨fun hc => ?_, fun hnil => (d.separate k hk).2 (List.map_eq_nil_iff.mp hnil)⟩
  obtain ⟨c, hc, hlower⟩ := List.mem_map.mp hc
  rw [Text.toLower_eq_iff (by decide)] at hlower
  exact (d.separate k hk).1 (hlower ▸ hc)

theorem Domain.lower_ne_nil (d : Domain) :
    d.lower ≠ [] := fun h => d.ne_nil (List.map_eq_nil_iff.mp h)

theorem BypassEntry.trim_text (e : BypassEntry) : Text.trim e.text = e.text := by
  refine Text.trim_of_solid fun c hc => ?_
  rcases List.mem_append.mp hc with hc | hc
  · rcases List.mem_append.mp hc with hc | hc
    · have hlead : ∀ form : Form, form.lead.any Text.isWhitespace = false := by
        intro form
        cases form <;> decide +kernel
      exact Bool.not_eq_true _ ▸ List.any_eq_false.mp (hlead e.form) c hc
    · rcases Text.mem_ofLabels hc with rfl | ⟨l, hl, hc⟩
      · decide
      · exact ((e.domain.solid l hl).2 c hc).2.2
  · rw [List.eq_of_mem_replicate hc]
    decide

/-- **The labels that the code looks for**, for each form. -/
theorem BypassEntry.bypassPattern_text (e : BypassEntry) :
    bypassPattern e.text = Text.ofLabels e.pattern := by
  have hbody := Text.ofLabels_ne_nil e.domain.ne_nil e.domain.separate
  have hstart : ∀ rest, Text.trimStartMatches '.' (Text.ofLabels e.domain.labels ++ rest) =
      Text.ofLabels e.domain.labels ++ rest := by
    intro rest
    refine Text.trimStartMatches_of_head ?_
    rw [List.head?_append_of_ne_nil _ hbody]
    exact Text.head_ofLabels e.domain.ne_nil e.domain.separate
  have hend : ∀ front, Text.trimEndMatches '.'
      (front ++ Text.ofLabels e.domain.labels ++ List.replicate e.dots '.') =
        front ++ Text.ofLabels e.domain.labels := by
    intro front
    rw [Text.trimEndMatches_append_replicate]
    refine Text.trimEndMatches_of_getLast ?_
    rw [List.getLast?_append_of_ne_nil _ hbody]
    exact Text.getLast_ofLabels e.domain.ne_nil e.domain.separate
  rw [bypassPattern, e.trim_text, BypassEntry.text, BypassEntry.pattern]
  cases e.form with
  | bare =>
    rw [Form.lead, List.nil_append, hstart, ← List.nil_append (Text.ofLabels _), hend,
      List.nil_append, Text.toAsciiLowercase_ofLabels]
    rfl
  | dotted =>
    have hdot : ∀ s, Text.trimStartMatches '.' ('.' :: s) = Text.trimStartMatches '.' s :=
      fun _ => rfl
    rw [Form.lead, List.append_assoc, List.singleton_append, hdot, hstart,
      ← List.nil_append (Text.ofLabels _), hend, List.nil_append, Text.toAsciiLowercase_ofLabels]
    rfl
  | wildcard =>
    have hstar : ∀ s, Text.trimStartMatches '.' ('*' :: s) = '*' :: s := fun _ => rfl
    have hlead : Form.wildcard.lead ++ Text.ofLabels e.domain.labels =
        Text.ofLabels (['*'] :: e.domain.labels) :=
      (Text.ofLabels_cons (l := ['*']) e.domain.ne_nil).symm
    rw [Form.lead, List.append_assoc, List.cons_append, hstar, ← List.cons_append,
      ← List.append_assoc, hend]
    exact (congrArg Text.toAsciiLowercase hlead).trans (Text.toAsciiLowercase_ofLabels _)

theorem BypassEntry.labels_pattern (e : BypassEntry) :
    Text.labels (Text.ofLabels e.pattern) = e.pattern ∧ Text.ofLabels e.pattern ≠ [] := by
  have hne : e.pattern ≠ [] := by
    unfold BypassEntry.pattern
    split
    · simp
    · exact e.domain.lower_ne_nil
  have hsep : ∀ l ∈ e.pattern, '.' ∉ l ∧ l ≠ [] := by
    unfold BypassEntry.pattern
    split
    · intro l hl
      rcases List.mem_cons.mp hl with rfl | hl
      · decide
      · exact e.domain.separate_lower l hl
    · exact e.domain.separate_lower
  exact ⟨Text.labels_ofLabels hne fun l hl => (hsep l hl).1, Text.ofLabels_ne_nil hne hsep⟩

/-- **`matches_bypass`, on entries.** -/
theorem matchesBypass_entries (host : Text) (es : List BypassEntry) :
    matchesBypass host (es.map BypassEntry.text) = true ↔ ∃ e ∈ es, e.Matches host := by
  rw [matchesBypass_iff]
  constructor
  · rintro ⟨raw, hraw, -, hsuffix⟩
    obtain ⟨e, he, rfl⟩ := List.mem_map.mp hraw
    rw [e.bypassPattern_text, e.labels_pattern.1] at hsuffix
    exact ⟨e, he, hsuffix⟩
  · rintro ⟨e, he, hmatch⟩
    refine ⟨e.text, List.mem_map_of_mem he, ?_, ?_⟩
    · rw [e.bypassPattern_text]
      exact e.labels_pattern.2
    · rw [e.bypassPattern_text, e.labels_pattern.1]
      exact hmatch

/-! ## 3. What a list means -/

theorem BypassEntry.meantFor_of_matches {e : BypassEntry} {host : Text} (h : e.Matches host) :
    e.MeantFor host := by
  unfold BypassEntry.Matches BypassEntry.pattern at h
  split at h
  · rename_i hform
    refine ⟨(List.suffix_cons _ _).trans h, fun _ heq => ?_⟩
    -- the star is one more label
    have hlen := h.length_le
    rw [List.length_cons, heq] at hlen
    omega
  · rename_i hform
    exact ⟨h, fun hw => absurd hw hform⟩

theorem BypassEntry.matches_iff_covers {e : BypassEntry} (host : Text) (h : e.form ≠ .wildcard) :
    e.Matches host ↔ e.Covers host := by
  unfold BypassEntry.Matches BypassEntry.pattern
  split
  · rename_i hform
    exact absurd hform h
  · exact Iff.rfl

/-- **What a list of entries means for a host**, when `direct` says that it goes around the tunnel:
it does exactly if an entry matches.  Then an entry is meant for it, so that nothing is matched
across a point.  What is meant happens exactly if every wildcard that is meant for the host comes
with an entry that matches, and always if there are no wildcards. -/
structure Meaning (es : List BypassEntry) (host : Text) (direct : Prop) : Prop where
  exact : direct ↔ ∃ e ∈ es, e.Matches host
  sound : direct → ∃ e ∈ es, e.MeantFor host
  complete_iff : (direct ↔ ∃ e ∈ es, e.MeantFor host) ↔
    ∀ e ∈ es, e.form = .wildcard → e.MeantFor host → ∃ e' ∈ es, e'.Matches host
  plain : (∀ e ∈ es, e.form ≠ .wildcard) → (direct ↔ ∃ e ∈ es, e.Covers host)

theorem Meaning.of_iff {es : List BypassEntry} {host : Text} {direct : Prop}
    (h : direct ↔ ∃ e ∈ es, e.Matches host) : Meaning es host direct where
  exact := h
  sound hd := by
    obtain ⟨e, he, hm⟩ := h.mp hd
    exact ⟨e, he, BypassEntry.meantFor_of_matches hm⟩
  complete_iff := by
    rw [h]
    constructor
    · intro hiff e he _ hmeant
      exact hiff.mpr ⟨e, he, hmeant⟩
    · intro hwild
      constructor
      · rintro ⟨e, he, hm⟩
        exact ⟨e, he, BypassEntry.meantFor_of_matches hm⟩
      · rintro ⟨e, he, hmeant⟩
        by_cases hform : e.form = .wildcard
        · exact hwild e he hform hmeant
        · exact ⟨e, he, (BypassEntry.matches_iff_covers host hform).mpr hmeant.1⟩
  plain hplain := by
    rw [h]
    exact exists_congr fun e => and_congr_right fun he =>
      BypassEntry.matches_iff_covers host (hplain e he)

/-! ### The installed list -/

/-- Only `set_bypass_domains` changes the list. -/
theorem World.bypass_step {P : Platform} {C : Config} {w w' : World} {a : World.Action}
    (ha : ∀ domains, a ≠ .setBypassDomains domains) (h : w.step P C a = some w') :
    w'.bypass = w.bypass := by
  cases a with
  | clock now =>
    simp only [World.step] at h
    split at h
    · cases h
      rfl
    · cases h
  | setBypassDomains domains => exact absurd rfl (ha domains)
  | prune =>
    cases h
    rfl
  | connect tx rx =>
    cases h
    rfl
  | session i a =>
    simp only [World.step] at h
    split at h
    · cases h
    · split at h
      · cases h
      · split at h
        · cases h
          rfl
        · cases h
          unfold World.recordDns
          split <;> rfl

/-- For a name, `should_bypass` asks the list. -/
theorem World.shouldBypass_of_name {P : Platform} {w : World} {host : Text}
    (hname : P.parseIp host = none) (hfar : hostIsLocalOrPrivate P host = false) :
    w.shouldBypass P host = matchesBypass host w.bypass := by
  unfold World.shouldBypass decideRoute
  simp only [hfar, hname, Bool.false_eq_true, if_false]
  split
  · rename_i hempty
    rw [List.isEmpty_iff.mp hempty]
    simp [matchesBypass]
  · cases matchesBypass host w.bypass <;> rfl

/-- **The meaning of a bypass list.**  For `matches_bypass`, and for `should_bypass` of every name
that is not local at every time after the list was installed, whatever else happens. -/
theorem bypass_list_meaning (P : Platform) (C : Config) (es : List BypassEntry) (host : Text) :
    Meaning es host (matchesBypass host (es.map BypassEntry.text) = true) ∧
    ∀ w w₁ w₂ : World, w.step P C (.setBypassDomains (es.map BypassEntry.text)) = some w₁ →
      Path (World.step P C) (fun _ a => ∀ domains, a ≠ .setBypassDomains domains) w₁ w₂ →
      P.parseIp host = none → hostIsLocalOrPrivate P host = false →
      Meaning es host (w₂.shouldBypass P host = true) := by
  have hentries := matchesBypass_entries host es
  constructor
  · exact .of_iff hentries
  · intro w w₁ w₂ hset hrun hname hfar
    have hinstalled : w₁.bypass = cleanedDomains (es.map BypassEntry.text) := by
      cases hset
      rfl
    have hkept : w₂.bypass = w₁.bypass :=
      Path.invariant (I := fun w => w.bypass = w₁.bypass) hrun rfl
        fun _ _ _ hI ha hs => (World.bypass_step ha hs).trans hI
    rw [World.shouldBypass_of_name hname hfar, hkept, hinstalled, matchesBypass_cleaned]
    exact .of_iff hentries

/-- `sberbank.ru`. -/
def sberbank : Domain where
  labels := ["sberbank".toList, "ru".toList]
  ne_nil := by decide
  solid := by
    have h : ["sberbank".toList, "ru".toList].all (fun l => !l.isEmpty &&
        l.all fun c => c != '.' && c != '*' && !Text.isWhitespace c) = true := by decide +kernel
    simpa [and_assoc] using h

/-- The list `sberbank.ru`, `*.sberbank.ru` covers the subdomains by its first entry. -/
theorem bypass_list_meaning_preset :
    matchesBypass "online.Sberbank.ru.".toList
        (List.map BypassEntry.text [⟨.bare, sberbank, 0⟩, ⟨.wildcard, sberbank, 0⟩]) = true ∧
    Meaning [⟨.bare, sberbank, 0⟩, ⟨.wildcard, sberbank, 0⟩] "online.Sberbank.ru.".toList
      (matchesBypass "online.Sberbank.ru.".toList
        (List.map BypassEntry.text [⟨.bare, sberbank, 0⟩, ⟨.wildcard, sberbank, 0⟩]) = true) ∧
    ∀ w₁, (World.start 0).step .ascii ⟨0, .random, 1000, 0⟩ (.setBypassDomains
        (List.map BypassEntry.text [⟨.bare, sberbank, 0⟩, ⟨.wildcard, sberbank, 0⟩])) =
          some w₁ →
      Meaning [⟨.bare, sberbank, 0⟩, ⟨.wildcard, sberbank, 0⟩] "online.Sberbank.ru.".toList
        (w₁.shouldBypass .ascii "online.Sberbank.ru.".toList = true) :=
  ⟨by decide +kernel, (bypass_list_meaning .ascii ⟨0, .random, 1000, 0⟩ _ _).1, fun w₁ hset =>
    (bypass_list_meaning .ascii ⟨0, .random, 1000, 0⟩ _ _).2 _ w₁ w₁ hset (.refl w₁)
      (by decide +kernel) (by decide +kernel)⟩

/-- **The list `*.sberbank.ru` alone matches no subdomain.** -/
theorem wildcard_matches_nothing :
    matchesBypass "online.sberbank.ru".toList
        (List.map BypassEntry.text [⟨.wildcard, sberbank, 0⟩]) = false ∧
    ((World.start 0).step .ascii ⟨0, .random, 1000, 0⟩ (.setBypassDomains
        (List.map BypassEntry.text [⟨.wildcard, sberbank, 0⟩]))).map
      (fun w => w.shouldBypass .ascii "online.sberbank.ru".toList) = some false ∧
    List.map BypassEntry.text [⟨.wildcard, sberbank, 0⟩] = ["*.sberbank.ru".toList] ∧
    BypassEntry.MeantFor ⟨.wildcard, sberbank, 0⟩ "online.sberbank.ru".toList := by
  refine ⟨by decide +kernel, by decide +kernel, by decide +kernel, ?_, fun _ => by decide +kernel⟩
  unfold BypassEntry.Covers
  decide +kernel

end BibaVpn.Client
