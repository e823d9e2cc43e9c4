/-
# Domain routing

Which connections leave the device directly, and which go through the tunnel (`domain_route.rs`).
A target that is a name is compared with the bypass list; a target that is an address is looked up
in a map from addresses to names, which is filled from DNS replies and whose entries expire; and
when that fails, the first TLS record may name the server.

* §1 is the comparison with the bypass list.  It normalises both sides, and so does the map: a
  stored name matches the list exactly when the name it came from does
  (`matchesBypass_normalizeDomain`);
* §2 is the map.  `Recorded` says once what recording a reply can do to an address
  (`recordDnsResponse_spec`);
* §3 is the decision, §4 the reader of the server name.
-/
import BibaVpn.Lib.Table
import BibaVpn.Client.Dns

namespace BibaVpn.Client

open Machine Wire

/-! ## 1. Names and the bypass list -/

/-- `normalize_domain`. -/
def normalizeDomain (d : Text) : Text := Text.toAsciiLowercase (Text.trimEndMatches '.' d)

/-- `matches_bypass`. -/
def matchesBypass (domain : Text) (bypass : List Text) : Bool :=
  let d := normalizeDomain domain
  !d.isEmpty && bypass.any fun raw =>
    let b := Text.toAsciiLowercase
      (Text.trimEndMatches '.' (Text.trimStartMatches '.' (Text.trim raw)))
    !b.isEmpty && (d == b || ('.' :: b).isSuffixOf d)

@[simp] theorem normalizeDomain_normalizeDomain (d : Text) :
    normalizeDomain (normalizeDomain d) = normalizeDomain d := by
  simp only [normalizeDomain, Text.trimEndMatches_toAsciiLowercase (d := '.') (by decide),
    Text.trimEndMatches_trimEndMatches, Text.toAsciiLowercase_toAsciiLowercase]

/-- A normalised name matches exactly when the name does. -/
theorem matchesBypass_normalizeDomain (d : Text) (bypass : List Text) :
    matchesBypass (normalizeDomain d) bypass = matchesBypass d bypass := by
  simp only [matchesBypass, normalizeDomain_normalizeDomain]

/-! ## 2. The map -/

/-- `MIN_TTL_SECS`. -/
def minTtlSecs : Nat := 30

/-- `MAX_TTL_SECS`. -/
def maxTtlSecs : Nat := 3600

/-- `MAX_ENTRIES`. -/
def maxEntries : Nat := 20000

/-- `ttl.clamp(MIN_TTL_SECS, MAX_TTL_SECS)`. -/
def clampTtl (ttl : Nat) : Nat := max minTtlSecs (min ttl maxTtlSecs)

/-- `Entry`. -/
structure RouteEntry where
  domain : Text
  expiresAt : Nat
  deriving DecidableEq

/-- `DomainRouteMap`. -/
abbrev DomainRouteMap := Table IpAddr RouteEntry

/-- The entry for an answer with this TTL. -/
def learnedEntry (now : Nat) (domain : Text) (ttl : Nat) : RouteEntry :=
  ⟨domain, saturatingAdd u64Max now (clampTtl ttl)⟩

/-- An entry that is alive under another name. -/
def RouteEntry.foreign (now : Nat) (domain : Text) (existing : RouteEntry) : Bool :=
  decide (existing.expiresAt > now) && normalizeDomain existing.domain != domain

/-- One turn of the loop over the answers. -/
def recordAnswer (now : Nat) (domain : Text) (g : DomainRouteMap) (a : IpAddr × Nat) :
    DomainRouteMap :=
  if (g.get a.1).any (RouteEntry.foreign now domain) then g
  else if maxEntries ≤ g.size && !(g.get a.1).isSome then g
  else g.insert a.1 (learnedEntry now domain a.2)

/-- `prune`. -/
def DomainRouteMap.prune (g : DomainRouteMap) (now : Nat) : DomainRouteMap :=
  g.retain fun e => decide (e.expiresAt > now)

/-- `record_dns_response`. -/
def DomainRouteMap.recordDnsResponse (P : Platform) (g : DomainRouteMap) (dnsMsg : Bytes)
    (expectedId : Nat) (expectedQname : Text) (bypass : List Text) (now : Nat) : DomainRouteMap :=
  if bypass.isEmpty then g
  else match parseDnsAnswers P dnsMsg with
    | none => g
    | some (respId, qname, found) =>
      if respId ≠ expectedId || normalizeDomain qname ≠ normalizeDomain expectedQname ||
          !matchesBypass qname bypass || qname.isEmpty || found.isEmpty then g
      else
        let g := if maxEntries ≤ g.size then g.prune now else g
        found.foldl (recordAnswer now (normalizeDomain qname)) g

/-- `lookup`. -/
def DomainRouteMap.lookup (g : DomainRouteMap) (ip : IpAddr) (now : Nat) : Option Text :=
  ((g.get ip).filter fun e => decide (e.expiresAt > now)).map (·.domain)

/-- What a reply with an answer for `ip` must be, for the map to learn from it. -/
structure Attributes (P : Platform) (dnsMsg : Bytes) (expectedId : Nat) (expectedQname : Text)
    (bypass : List Text) (ip : IpAddr) (qname : Text) (ttl : Nat) : Prop where
  parsed : ∃ found, parseDnsAnswers P dnsMsg = some (expectedId, qname, found) ∧ (ip, ttl) ∈ found
  question : normalizeDomain qname = normalizeDomain expectedQname
  listed : matchesBypass qname bypass = true

/-- What recording a reply can do to one address. -/
inductive Recorded (P : Platform) (dnsMsg : Bytes) (expectedId : Nat) (expectedQname : Text)
    (bypass : List Text) (now : Nat) (g g' : DomainRouteMap) (ip : IpAddr) : Prop
  | kept (h : g'.get ip = g.get ip)
  | expired (e : RouteEntry) (old : g.get ip = some e) (late : e.expiresAt ≤ now)
      (gone : g'.get ip = none)
  | learned (qname : Text) (ttl : Nat)
      (source : Attributes P dnsMsg expectedId expectedQname bypass ip qname ttl)
      (polite : ∀ e, g.get ip = some e → now < e.expiresAt →
        normalizeDomain e.domain = normalizeDomain qname)
      (new : g'.get ip = some (learnedEntry now (normalizeDomain qname) ttl))

/-- One turn keeps an address, or writes its own unless another name holds it. -/
theorem get_recordAnswer (now : Nat) (domain : Text) (g : DomainRouteMap) (a : IpAddr × Nat)
    (ip : IpAddr) :
    (recordAnswer now domain g a).get ip = g.get ip ∨
      ip = a.1 ∧ (recordAnswer now domain g a).get ip = some (learnedEntry now domain a.2) ∧
        ∀ e, g.get ip = some e → now < e.expiresAt → normalizeDomain e.domain = domain := by
  unfold recordAnswer
  split
  · exact .inl rfl
  · rename_i hforeign
    split
    · exact .inl rfl
    · rw [Table.get_insert]
      by_cases hip : ip = a.1
      · refine .inr ⟨hip, if_pos hip, fun e he hlive => ?_⟩
        rw [← hip, he] at hforeign
        by_contra hne
        exact hforeign (by simp [RouteEntry.foreign, hlive, hne])
      · exact .inl (if_neg hip)

theorem size_recordAnswer {now : Nat} {domain : Text} {g : DomainRouteMap} {a : IpAddr × Nat}
    (h : g.size ≤ maxEntries) : (recordAnswer now domain g a).size ≤ maxEntries := by
  unfold recordAnswer
  split
  · exact h
  · split
    · exact h
    · rename_i hroom
      rw [Table.size_insert]
      split
      · exact h
      · rename_i hnew
        simp only [Bool.and_eq_true, decide_eq_true_eq, hnew, Bool.not_eq_true, not_and] at hroom
        by_contra hle
        exact absurd (hroom (by omega)) (by simp)

/-- The loop over the answers: every address is kept, or learned from one of them. -/
theorem get_foldl_recordAnswer (now : Nat) (domain : Text) (found : List (IpAddr × Nat)) :
    ∀ (g : DomainRouteMap) (ip : IpAddr),
      (found.foldl (recordAnswer now domain) g).get ip = g.get ip ∨
        (∃ ttl, (ip, ttl) ∈ found ∧
          (found.foldl (recordAnswer now domain) g).get ip = some (learnedEntry now domain ttl)) ∧
        ∀ e, g.get ip = some e → now < e.expiresAt → normalizeDomain e.domain = domain := by
  -- from the last answer back, so that the step is the last turn of the loop
  induction found using List.reverseRecOn with
  | nil => exact fun g ip => .inl rfl
  | append_singleton found a ih =>
    intro g ip
    rw [List.foldl_append, List.foldl_cons, List.foldl_nil]
    have hmem : ∀ ttl, (ip, ttl) ∈ found → (ip, ttl) ∈ found ++ [a] :=
      fun _ h => List.mem_append_left _ h
    rcases get_recordAnswer now domain (found.foldl (recordAnswer now domain) g) a ip with
      hkept | ⟨hip, hnew, hpolite⟩
    · rw [hkept]
      exact (ih g ip).imp id fun ⟨⟨ttl, hin, hget⟩, hp⟩ => ⟨⟨ttl, hmem ttl hin, hget⟩, hp⟩
    · refine .inr ⟨⟨a.2, ?_, hnew⟩, ?_⟩
      · rw [hip]
        exact List.mem_append_right _ (List.mem_singleton.mpr rfl)
      · rcases ih g ip with hsame | ⟨-, hp⟩
        · rw [← hsame]
          exact hpolite
        · exact hp

theorem size_foldl_recordAnswer (now : Nat) (domain : Text) :
    ∀ (found : List (IpAddr × Nat)) (g : DomainRouteMap), g.size ≤ maxEntries →
      (found.foldl (recordAnswer now domain) g).size ≤ maxEntries
  | [], _, h => h
  | _ :: found, _, h => size_foldl_recordAnswer now domain found _ (size_recordAnswer h)

theorem DomainRouteMap.get_prune (g : DomainRouteMap) (now : Nat) (ip : IpAddr) :
    (g.prune now).get ip = (g.get ip).filter fun e => decide (e.expiresAt > now) :=
  Table.get_retain _ _ _

/-- Pruning keeps what is alive. -/
theorem DomainRouteMap.get_prune_cases (g : DomainRouteMap) (now : Nat) (ip : IpAddr) :
    (g.prune now).get ip = g.get ip ∨
      ∃ e, g.get ip = some e ∧ e.expiresAt ≤ now ∧ (g.prune now).get ip = none := by
  rw [g.get_prune]
  cases hget : g.get ip with
  | none => exact .inl rfl
  | some e =>
    by_cases hlive : now < e.expiresAt
    · exact .inl (by simp [Option.filter, hlive])
    · exact .inr ⟨e, rfl, Nat.not_lt.mp hlive, by simp [Option.filter, hlive]⟩

/-- **What `record_dns_response` can do.** -/
theorem DomainRouteMap.recordDnsResponse_spec (P : Platform) (g : DomainRouteMap) (dnsMsg : Bytes)
    (expectedId : Nat) (expectedQname : Text) (bypass : List Text) (now : Nat) :
    (∀ ip, Recorded P dnsMsg expectedId expectedQname bypass now g
      (g.recordDnsResponse P dnsMsg expectedId expectedQname bypass now) ip) ∧
    (g.size ≤ maxEntries →
      (g.recordDnsResponse P dnsMsg expectedId expectedQname bypass now).size ≤ maxEntries) := by
  unfold recordDnsResponse
  split
  · exact ⟨fun ip => .kept rfl, id⟩
  · split
    · exact ⟨fun ip => .kept rfl, id⟩
    · rename_i respId qname found hparsed
      split
      · exact ⟨fun ip => .kept rfl, id⟩
      · rename_i hguard
        simp only [Bool.or_eq_true, decide_eq_true_eq, Bool.not_eq_true', not_or, not_not,
          Bool.not_eq_false] at hguard
        obtain ⟨⟨⟨⟨hid, hname⟩, hlisted⟩, -⟩, -⟩ := hguard
        subst hid
        simp only
        generalize hg₁ : (if maxEntries ≤ g.size then g.prune now else g) = g₁
        have hprune : ∀ ip, g₁.get ip = g.get ip ∨
            ∃ e, g.get ip = some e ∧ e.expiresAt ≤ now ∧ g₁.get ip = none := by
          intro ip
          rw [← hg₁]
          split
          · exact g.get_prune_cases now ip
          · exact .inl rfl
        constructor
        · intro ip
          rcases get_foldl_recordAnswer now (normalizeDomain qname) found g₁ ip with
            hsame | ⟨⟨ttl, hin, hnew⟩, hpolite⟩
          · rcases hprune ip with hkept | ⟨e, he, hlate, hgone⟩
            · exact .kept (hsame.trans hkept)
            · exact .expired e he hlate (hsame.trans hgone)
          · refine .learned qname ttl ⟨⟨found, hparsed, hin⟩, hname, hlisted⟩ ?_ hnew
            intro e he hlive
            rcases hprune ip with hkept | ⟨e', he', hlate, -⟩
            · exact hpolite e (hkept.trans he) hlive
            · obtain rfl := Option.some.inj (he.symm.trans he')
              exact absurd hlive (Nat.not_lt.mpr hlate)
        · intro hsize
          refine size_foldl_recordAnswer _ _ _ _ ?_
          rw [← hg₁]
          split
          · exact Nat.le_trans (Table.size_retain_le _ _) hsize
          · exact hsize

/-! ## 3. The decision -/

/-- `ipv4_is_local_or_private`. -/
def ipv4IsLocalOrPrivate : Bytes → Bool
  | a :: b :: _ =>
    a == 127 || a == 10 || (a == 172 && 16 ≤ b && b ≤ 31) || (a == 192 && b == 168) ||
      (a == 169 && b == 254) || (a == 100 && 64 ≤ b && b ≤ 127)
  | _ => false

/-- `ip_is_local_or_private`. -/
def ipIsLocalOrPrivate : IpAddr → Bool
  | .v4 octets => ipv4IsLocalOrPrivate octets
  | .v6 o =>
    if o = List.replicate 15 0 ++ [1] then true
    else match toIpv4Mapped o with
      | some v4 => ipv4IsLocalOrPrivate v4
      | none =>
        match o with
        | o0 :: o1 :: _ => o0 &&& 0xfe == 0xfc || (o0 == 0xfe && o1 &&& 0xc0 == 0x80)
        | _ => false

/-- `host_is_local_or_private`. -/
def hostIsLocalOrPrivate (P : Platform) (host : Text) : Bool :=
  let host := Text.trimEndMatches '.' host
  if Text.eqIgnoreAsciiCase host "localhost".toList then true
  else match P.parseIp host with
    | some ip => ipIsLocalOrPrivate ip
    | none => false

/-- `Route`. -/
inductive Route
  | tunnel
  | direct
  deriving DecidableEq, Repr

/-- `decide`. -/
def decideRoute (P : Platform) (host : Text) (bypass : List Text) (map : DomainRouteMap)
    (now : Nat) : Route :=
  if hostIsLocalOrPrivate P host then .direct
  else if bypass.isEmpty then .tunnel
  else match P.parseIp host with
    | none => if matchesBypass host bypass then .direct else .tunnel
    | some ip =>
      match map.lookup ip now with
      | some domain => if matchesBypass domain bypass then .direct else .tunnel
      | none => .tunnel

/-- An address literal is local exactly when its address is: it is not `localhost`, and there is no
point at its end to cut off. -/
theorem hostIsLocalOrPrivate_of_parseIp {P : Platform} {host : Text} {ip : IpAddr}
    (h : P.parseIp host = some ip) : hostIsLocalOrPrivate P host = ipIsLocalOrPrivate ip := by
  obtain ⟨hchars, hlast⟩ := Platform.address_of_parseIp h
  have htrim : Text.trimEndMatches '.' host = host := Text.trimEndMatches_of_getLast hlast
  have hname : Text.eqIgnoreAsciiCase host "localhost".toList = false := by
    rw [Bool.eq_false_iff]
    intro heq
    cases host with
    | nil => exact absurd heq (by decide)
    | cons c rest =>
      have hc : c.toLower = 'l' := by
        have := beq_iff_eq.mp heq
        exact (List.cons.inj this).1
      have hno : addressChars.all (·.toLower != 'l') = true := by decide +kernel
      have := List.all_eq_true.mp hno c (hchars c List.mem_cons_self)
      exact bne_iff_ne.mp this hc
  simp only [hostIsLocalOrPrivate, htrim, hname, h, Bool.false_eq_true, if_false]

/-! ## 4. The server name of a TLS record -/

/-- `parse_sni_extension`, from the first name on: each turn takes three bytes at least. -/
def parseSniNames (P : Platform) : Nat → Bytes → Option Text
  | 0, _ => none
  | fuel + 1, t :: l1 :: l0 :: rest =>
    let nameLen := fromBe16 l1 l0
    if rest.length < nameLen then none
    else if t = 0 then
      let host := Text.trimEndMatches '.' (P.fromUtf8Lossy (rest.take nameLen))
      if host.isEmpty || (P.parseIp host).isSome then none else some (Text.toAsciiLowercase host)
    else parseSniNames P fuel (rest.drop nameLen)
  | _ + 1, _ => none

/-- `parse_sni_extension`. -/
def parseSniExtension (P : Platform) (data : Bytes) : Option Text :=
  if data.length < 2 then none
  else
    let listLen := u16At data 0
    if 2 + listLen > data.length then none
    else parseSniNames P data.length (slice data 2 (2 + listLen))

/-- `parse_extensions_sni`: each turn takes four bytes at least. -/
def parseExtensionsSni (P : Platform) : Nat → Bytes → Option Text
  | 0, _ => none
  | fuel + 1, t1 :: t0 :: l1 :: l0 :: rest =>
    let elen := fromBe16 l1 l0
    if rest.length < elen then none
    else
      let found := if fromBe16 t1 t0 = 0 then parseSniExtension P (rest.take elen) else none
      match found with
      | some sni => some sni
      | none => parseExtensionsSni P fuel (rest.drop elen)
  | _ + 1, _ => none

/-- `parse_client_hello_body_sni`. -/
def parseClientHelloBodySni (P : Platform) (body : Bytes) : Option Text := do
  let sidLen ← body[34]?
  let pos := 34 + 1 + sidLen.toNat
  if pos + 2 > body.length then none
  else
    let pos := pos + 2 + u16At body pos
    let compLen ← body[pos]?
    let pos := pos + 1 + compLen.toNat
    if pos + 2 > body.length then none
    else
      let extLen := u16At body pos
      let pos := pos + 2
      if pos + extLen > body.length then none
      else parseExtensionsSni P body.length (slice body pos (pos + extLen))

/-- `parse_handshake_client_hello_sni`. -/
def parseHandshakeClientHelloSni (P : Platform) (hs : Bytes) : Option Text :=
  if hs.length < 4 || hs[0]? ≠ some 0x01 then none
  else
    let hsLen := fromBe (slice hs 1 4)
    if hs.length < 4 + hsLen then none else parseClientHelloBodySni P (slice hs 4 (4 + hsLen))

/-- `extract_client_hello_sni`. -/
def extractClientHelloSni (P : Platform) (record : Bytes) : Option Text :=
  if record.length < 5 || record[0]? ≠ some 0x16 then none
  else
    let recLen := u16At record 3
    if record.length < 5 + recLen then none
    else parseHandshakeClientHelloSni P (slice record 5 (5 + recLen))

end BibaVpn.Client
