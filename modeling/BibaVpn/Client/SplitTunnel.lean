/-
# Split tunnelling over a whole run

The pieces of the domain router meet here: the UDP mux sessions whose DNS replies it listens to, the
map, the bypass list that may be replaced at any time, and the clock.  The list, the map and the
clock are read under one lock (`GLOBAL_BYPASS`), so recording a reply and deciding a route are
single steps; between the first test of `resolve_domain_split_route` and its last one anything may
happen.

* §1 is the world and its step function;
* §2 ties each entry of the map to the reply that it was learned from: `Lesson` is a step of the run
  in which a session took a reply with the `xid` of a pending request to port 53, together with what
  the query and the reply said;
* §3 draws the conclusion for the routes.
-/
import BibaVpn.Client.TlsPeek
import BibaVpn.Client.DomainRoute
import BibaVpn.Udp.MuxClient

namespace BibaVpn.Client

open Machine Lts Wire Udp.Client

/-! ## 1. The world -/

/-- The state that the router works with. -/
structure World where
  now : Nat
  bypass : List Text
  map : DomainRouteMap
  sessions : List Session

def World.start (now : Nat) : World := ⟨now, [], .empty, []⟩

inductive World.Action
  /-- time passes -/
  | clock (now : Nat)
  /-- `set_bypass_domains` -/
  | setBypassDomains (domains : List Text)
  | prune
  /-- the driver has a new session -/
  | connect (tx : ChaHalf) (rx : Aead)
  /-- an event of session `i` -/
  | session (i : Nat) (a : Udp.Client.Action)

/-- `record_dns`. -/
def World.recordDns (P : Platform) (w : World) (q : Snoop) : World :=
  if w.bypass.isEmpty then w
  else { w with map := w.map.recordDnsResponse P q.message q.id q.qname w.bypass w.now }

def World.step (P : Platform) (C : Config) (w : World) : World.Action → Option World
  | .clock now => if w.now ≤ now then some { w with now } else none
  | .setBypassDomains domains =>
    let cleaned := (domains.map fun d => Text.toAsciiLowercase (Text.trim d)).filter fun d =>
      !d.isEmpty
    some { w with bypass := cleaned }
  | .prune => some { w with map := w.map.prune w.now }
  | .connect tx rx => some { w with sessions := w.sessions ++ [Session.start tx rx] }
  | .session i a =>
    match w.sessions[i]? with
    | none => none
    | some s =>
      match s.act P C a with
      | none => none
      | some (s', snoop) =>
        let w := { w with sessions := w.sessions.set i s' }
        match snoop with
        | none => some w
        | some q => some (w.recordDns P q)

/-- `should_bypass`. -/
def World.shouldBypass (P : Platform) (w : World) (host : Text) : Bool :=
  if hostIsLocalOrPrivate P host then true
  else if w.bypass.isEmpty then false
  else decideRoute P host w.bypass w.map w.now = .direct

/-- What `resolve_domain_split_route` sees when its three tests fall into the states `w₁`, `w₂` and
`w₃` of a run. -/
def splitPolicy (P : Platform) (w₁ w₂ w₃ : World) : SplitPolicy where
  shouldBypass host := w₁.shouldBypass P host.toList
  bypassDomainsActive := !w₂.bypass.isEmpty
  isIpAddr host := (P.parseIp host.toList).isSome
  extractClientHelloSni record := (extractClientHelloSni P record).map String.ofList
  matchesActiveBypass sni := !w₃.bypass.isEmpty && matchesBypass sni.toList w₃.bypass

/-! ## 2. Where the entries of the map come from -/

/-- A step from `before` to `after`: session `i`, which is `s`, receives `b`, a `UDP_REP` that says
`rep`; the entry `e` waits for it, for the request `r` with the DNS query `id`, `question`; and the
answer for an address has this name and this TTL. -/
structure Lesson where
  before : World
  after : World
  i : Nat
  b : Bytes
  s : Session
  rep : UdpRep
  e : Entry
  r : Request
  id : Nat
  question : Text
  qname : Text
  ttl : Nat

/-- The lesson was given in a run from `w₀` to `w`, and is about `ip`. -/
structure Lesson.Given (P : Platform) (C : Config) (w₀ w : World) (ip : IpAddr) (l : Lesson) :
    Prop where
  reached : Reachable (World.step P C) w₀ l.before
  step : l.before.step P C (.session l.i (.binary l.b)) = some l.after
  later : Reachable (World.step P C) l.after w
  session : l.before.sessions[l.i]? = some l.s
  decoded : ∃ inner, unpackTunnelIn l.s.rx l.b = .ok inner ∧ decodeUdpRep P inner = .ok l.rep
  pending : l.s.pending.get l.rep.xid = some l.e
  request : l.s.requests[l.e.reply]? = some l.r
  xid : l.r.xid = l.rep.xid
  port : l.r.dstPort = 53
  query : parseDnsQuery P l.r.payload = some (l.id, l.question)
  answer : Attributes P l.rep.payload l.id l.question l.before.bypass ip l.qname l.ttl

/-- The entry that a lesson leaves. -/
def Lesson.entry (l : Lesson) : RouteEntry :=
  learnedEntry l.before.now (normalizeDomain l.qname) l.ttl

variable {P : Platform} {C : Config} {w w' : World} {a : World.Action}

/-- The events of a session that call `record_dns`. -/
theorem snoop_of_act {s s' : Session} {a : Udp.Client.Action} {q : Snoop}
    (h : s.act P C a = some (s', some q)) :
    ∃ b inner rep e, a = .binary b ∧ unpackTunnelIn s.rx b = .ok inner ∧
      decodeUdpRep P inner = .ok rep ∧ s.pending.get rep.xid = some e ∧
      e.dnsExpect = some (q.id, q.qname) ∧ q.message = rep.payload := by
  cases a with
  | binary b =>
    simp only [Session.act] at h
    split at h
    · unfold Session.receive at h
      split at h
      · cases h
      · rename_i inner hinner
        simp only at h
        split at h
        · cases h
        · rename_i rep hrep
          split at h
          · cases h
          · rename_i e he
            simp only [Option.some.injEq, Prod.mk.injEq] at h
            obtain ⟨-, hsnoop⟩ := h
            split at hsnoop
            · obtain ⟨dns, hdns, rfl⟩ := Option.map_eq_some_iff.mp hsnoop
              exact ⟨b, inner, rep, e, rfl, hinner, hrep, he, hdns, rfl⟩
            · cases hsnoop
    · cases h
  | submit data xid =>
    simp only [Session.act] at h
    split at h
    · cases h
    · split at h <;> cases h
  | drop i => cases h
  | forward pad decoy =>
    simp only [Session.act] at h
    split at h
    · split at h <;> cases h
    · cases h
  | sent error =>
    simp only [Session.act] at h
    split at h <;> cases h
  | cmdClosed | other | wsClosed | wsError | tick | drain | abort =>
    simp only [Session.act] at h
    split at h <;> cases h

/-- **The invariant of a run from `w₀`.** -/
structure World.Inv (P : Platform) (C : Config) (w₀ w : World) : Prop where
  reached : Reachable (World.step P C) w₀ w
  sessions : ∀ s ∈ w.sessions, s.Inv P
  bounded : w.map.size ≤ maxEntries
  taught : ∀ ip e, w.map.get ip = some e → ∃ l : Lesson, l.Given P C w₀ w ip ∧ e = l.entry

/-- What a step can do to the map. -/
theorem World.map_step (h : w.step P C a = some w') :
    w'.map = w.map ∨ w'.map = w.map.prune w.now ∨
      ∃ i s s' b q, a = .session i (.binary b) ∧ w.sessions[i]? = some s ∧
        s.act P C (.binary b) = some (s', some q) ∧
        w'.map = w.map.recordDnsResponse P q.message q.id q.qname w.bypass w.now := by
  cases a with
  | clock now =>
    simp only [World.step] at h
    split at h
    · cases h; exact .inl rfl
    · cases h
  | setBypassDomains | connect => cases h; exact .inl rfl
  | prune => cases h; exact .inr (.inl rfl)
  | session i a =>
    simp only [World.step] at h
    split at h
    · cases h
    · rename_i s hs
      split at h
      · cases h
      · rename_i s' snoop hact
        split at h
        · cases h; exact .inl rfl
        · rename_i q
          cases h
          unfold World.recordDns
          split
          · exact .inl rfl
          · obtain ⟨b, -, -, -, rfl, -⟩ := snoop_of_act hact
            exact .inr (.inr ⟨i, s, s', b, q, rfl, hs, hact, rfl⟩)

/-- Every step keeps the invariants of the sessions. -/
theorem World.sessions_step (hI : ∀ s ∈ w.sessions, s.Inv P) (h : w.step P C a = some w') :
    ∀ s ∈ w'.sessions, s.Inv P := by
  cases a with
  | clock now =>
    simp only [World.step] at h
    split at h
    · cases h; exact hI
    · cases h
  | setBypassDomains | prune => cases h; exact hI
  | connect tx rx =>
    cases h
    intro s hs
    rcases List.mem_append.mp hs with hs | hs
    · exact hI s hs
    · cases List.mem_singleton.mp hs
      exact Session.Inv.start P tx rx
  | session i a =>
    simp only [World.step] at h
    split at h
    · cases h
    · rename_i s hs
      split at h
      · cases h
      · rename_i s' snoop hact
        have hset : ∀ t ∈ w.sessions.set i s', t.Inv P := by
          intro t ht
          rcases List.mem_or_eq_of_mem_set ht with ht | rfl
          · exact hI t ht
          · exact (hI s (List.mem_of_getElem? hs)).act hact
        split at h
        · cases h; exact hset
        · cases h
          unfold World.recordDns
          split <;> exact hset

theorem Lesson.Given.later_step {w₀ : World} {ip : IpAddr} {l : Lesson} (hl : l.Given P C w₀ w ip)
    (h : w.step P C a = some w') :
    l.Given P C w₀ w' ip := { hl with later := hl.later.tail trivial h }

/-- **Every step keeps the invariant**: an entry that is new after the step comes from the reply
taken in it. -/
theorem World.Inv.step {w₀ : World} (hI : World.Inv P C w₀ w) (h : w.step P C a = some w') :
    World.Inv P C w₀ w' := by
  have hold : ∀ ip e, w.map.get ip = some e → ∃ l : Lesson, l.Given P C w₀ w' ip ∧ e = l.entry := by
    intro ip e he
    obtain ⟨l, hl, heq⟩ := hI.taught ip e he
    exact ⟨l, hl.later_step h, heq⟩
  refine ⟨hI.reached.tail trivial h, World.sessions_step hI.sessions h, ?_, ?_⟩
  · rcases World.map_step h with heq | heq | ⟨i, s, s', b, q, -, -, -, heq⟩
    · exact heq ▸ hI.bounded
    · exact heq ▸ Nat.le_trans (Table.size_retain_le _ _) hI.bounded
    · rw [heq]
      exact (w.map.recordDnsResponse_spec P q.message q.id q.qname w.bypass w.now).2 hI.bounded
  · intro ip e he
    rcases World.map_step h with heq | heq | ⟨i, s, s', b, q, rfl, hs, hact, heq⟩
    · exact hold ip e (heq ▸ he)
    · rw [heq] at he
      rcases w.map.get_prune_cases w.now ip with hkept | ⟨-, -, -, hgone⟩
      · exact hold ip e (hkept ▸ he)
      · rw [hgone] at he
        cases he
    · rw [heq] at he
      cases (w.map.recordDnsResponse_spec P q.message q.id q.qname w.bypass w.now).1 ip with
      | kept hkept => exact hold ip e (hkept ▸ he)
      | expired e' old late gone =>
        rw [gone] at he
        cases he
      | learned qname ttl source polite new =>
        obtain ⟨b', inner, rep, entry, hb, hinner, hrep, hpend, hdns, hmsg⟩ := snoop_of_act hact
        cases hb
        obtain ⟨r, hown⟩ := (hI.sessions s (List.mem_of_getElem? hs)).owned rep.xid entry hpend
        have hexpect : r.dnsExpect P = some (q.id, q.qname) := hown.dns.symm.trans hdns
        obtain ⟨hport, hquery⟩ : r.dstPort = 53 ∧
            parseDnsQuery P r.payload = some (q.id, q.qname) := by
          unfold Request.dnsExpect at hexpect
          split at hexpect
          · exact ⟨‹_›, hexpect⟩
          · cases hexpect
        exact ⟨⟨w, w', i, b, s, rep, entry, r, q.id, q.qname, qname, ttl⟩,
          ⟨hI.reached, h, .refl _, hs, ⟨inner, hinner, hrep⟩, hpend, hown.request, hown.xid, hport,
            hquery, hmsg ▸ source⟩, Option.some.inj (he.symm.trans new)⟩

/-! ## 3. Routes -/

/-- The names of the map are normalised. -/
theorem Lesson.normalizeDomain_entry (l : Lesson) :
    normalizeDomain l.entry.domain = l.entry.domain := normalizeDomain_normalizeDomain _

/-- A live entry keeps its name in every step. -/
theorem World.Inv.live_kept {w₀ : World} (hI : World.Inv P C w₀ w) (h : w.step P C a = some w')
    {ip : IpAddr} {e : RouteEntry} (he : w.map.get ip = some e) (hlive : w.now < e.expiresAt) :
    ∃ e', w'.map.get ip = some e' ∧ e'.domain = e.domain := by
  rcases World.map_step h with heq | heq | ⟨i, s, s', b, q, -, -, -, heq⟩
  · exact ⟨e, heq ▸ he, rfl⟩
  · rcases w.map.get_prune_cases w.now ip with hkept | ⟨e', he', hlate, -⟩
    · exact ⟨e, by rw [heq, hkept, he], rfl⟩
    · obtain rfl := Option.some.inj (he.symm.trans he')
      exact absurd hlive (Nat.not_lt.mpr hlate)
  · cases (w.map.recordDnsResponse_spec P q.message q.id q.qname w.bypass w.now).1 ip with
    | kept hkept => exact ⟨e, by rw [heq, hkept, he], rfl⟩
    | expired e' old late gone =>
      obtain rfl := Option.some.inj (he.symm.trans old)
      exact absurd hlive (Nat.not_lt.mpr late)
    | learned qname ttl source polite new =>
      obtain ⟨l, -, rfl⟩ := hI.taught ip e he
      refine ⟨_, by rw [heq, new], ?_⟩
      show normalizeDomain qname = _
      rw [← polite _ he hlive, l.normalizeDomain_entry]

/-- A public address is bypassed only for a live entry whose name is on the list. -/
theorem World.entry_of_shouldBypass {host : Text} {ip : IpAddr} (hip : P.parseIp host = some ip)
    (hpub : ipIsLocalOrPrivate ip = false) (h : w.shouldBypass P host = true) :
    ∃ e, w.map.get ip = some e ∧ w.now < e.expiresAt ∧ matchesBypass e.domain w.bypass = true := by
  have hlocal : hostIsLocalOrPrivate P host = false := by
    rw [hostIsLocalOrPrivate_of_parseIp hip, hpub]
  unfold World.shouldBypass at h
  rw [hlocal, if_neg Bool.false_ne_true] at h
  split at h
  · cases h
  · have hdirect := of_decide_eq_true h
    unfold decideRoute at hdirect
    rw [hlocal, if_neg Bool.false_ne_true, if_neg ‹_›, hip] at hdirect
    simp only at hdirect
    split at hdirect
    · rename_i domain hlook
      obtain ⟨e, hfilter, rfl⟩ := Option.map_eq_some_iff.mp hlook
      obtain ⟨he, hlive⟩ := Option.filter_eq_some_iff.mp hfilter
      split at hdirect
      · exact ⟨e, he, of_decide_eq_true hlive, ‹_›⟩
      · cases hdirect
    · cases hdirect

/-- **Nothing is routed around the tunnel without a reason.**  In every run, when the three tests of
`resolve_domain_split_route` fall into its states `w₁`, `w₂`, `w₃` (nothing is asked of the last
two) and the answer for a public address literal is `direct`: either a reply to a pending DNS query
of this client taught the map that address under a name that is on the list now, and its TTL has not
passed; or the connection is to port 443, its first record was peeked at, and the server name in it
is on the list.  A live entry is never given another name, and the map stays within its bound. -/
theorem direct_only_with_attribution (P : Platform) (C : Config) (now : Nat) {w₁ : World}
    (h₁ : Reachable (World.step P C) (World.start now) w₁) (w₂ w₃ : World) :
    (∀ (host : String) (port : Nat) (prefetch unread : Bytes) (sniPeek : Bool)
        (outcomes : List ReadOutcome) (ip : IpAddr),
      P.parseIp host.toList = some ip → ipIsLocalOrPrivate ip = false →
      (resolveDomainSplitRoute (splitPolicy P w₁ w₂ w₃) host port prefetch unread sniPeek
        outcomes).1.direct = true →
      (∃ l : Lesson, l.Given P C (World.start now) w₁ ip ∧ matchesBypass l.qname w₁.bypass = true ∧
        w₁.now < l.before.now + clampTtl l.ttl) ∨
      (sniPeek = true ∧ port = 443 ∧ ∃ sni,
        extractClientHelloSni P (peekTlsClientHelloRecord prefetch unread outcomes).1 = some sni ∧
        matchesBypass sni w₃.bypass = true)) ∧
    (∀ a w', w₁.step P C a = some w' → ∀ ip e, w₁.map.get ip = some e → w₁.now < e.expiresAt →
      ∃ e', w'.map.get ip = some e' ∧ e'.domain = e.domain) ∧
    w₁.map.size ≤ maxEntries := by
  have hI : World.Inv P C (World.start now) w₁ :=
    Reachable.invariant (I := World.Inv P C (World.start now)) h₁
      ⟨.refl _, nofun, Nat.zero_le _, nofun⟩
      fun _ _ _ hI hs => hI.step hs
  refine ⟨?_, fun a w' hs ip e he hlive => hI.live_kept hs he hlive, hI.bounded⟩
  intro host port prefetch unread sniPeek outcomes ip hip hpub hdirect
  unfold resolveDomainSplitRoute at hdirect
  split at hdirect
  · rename_i hbypass
    obtain ⟨e, he, hlive, hmatch⟩ := World.entry_of_shouldBypass hip hpub hbypass
    obtain ⟨l, hl, rfl⟩ := hI.taught ip e he
    refine .inl ⟨l, hl, ?_, ?_⟩
    · rw [← matchesBypass_normalizeDomain]
      exact hmatch
    · exact Nat.lt_of_lt_of_le hlive (saturatingAdd_le _ _ _)
  · split at hdirect
    · cases hdirect
    · rename_i hpeek
      split at hdirect
      · cases hdirect
      · rename_i hactive
        split at hdirect
        · cases hdirect
        · simp only [Bool.or_eq_true, bne_iff_ne, ne_eq, not_or, not_not] at hactive
          refine .inr ⟨by simpa using hpeek, hactive.2, ?_⟩
          simp only at hdirect
          split at hdirect
          · rename_i sni hsni
            obtain ⟨sni', hsni', rfl⟩ := Option.map_eq_some_iff.mp hsni
            split at hdirect
            · rename_i hmatch
              refine ⟨sni', hsni', ?_⟩
              have := (Bool.and_eq_true _ _).mp hmatch
              simpa using this.2
            · cases hdirect
          · cases hdirect

/-- A query for `a.b` to `8.8.8.8:53`, and the reply that lists `93.184.216.34` for 300 seconds. -/
def learnRun : List World.Action :=
  let coins : PadCoins := ⟨0, fun _ => 0⟩
  let decoy : DecoyCoins := ⟨0, fun _ => 0⟩
  let question : Bytes := [1, 97, 1, 98, 0, 0, 1, 0, 1]
  let query : Bytes := [0x12, 0x34, 1, 0, 0, 1, 0, 0, 0, 0, 0, 0] ++ question
  let reply : Bytes := [0x12, 0x34, 0x81, 0x80, 0, 1, 0, 1, 0, 0, 0, 0] ++ question ++
    [0xC0, 12, 0, 1, 0, 1, 0, 0, 1, 44, 0, 4, 93, 184, 216, 34]
  [.setBypassDomains ["b".toList], .connect ⟨.plain, 0⟩ .plain,
    .session 0 (.submit ([0, 0, 0, 1, 8, 8, 8, 8, 0, 53] ++ query) 7),
    .session 0 (.forward coins decoy), .session 0 (.sent none),
    .session 0 (.binary (plainReply 7 reply)), .clock 1200]

/-- The address is then routed directly, for that reason. -/
theorem direct_only_with_attribution_learned :
    (run (World.step .ascii ⟨0, .random, 1000, 0⟩) (World.start 1000) learnRun).map (fun w =>
        (resolveDomainSplitRoute (splitPolicy .ascii w w w) "93.184.216.34" 80 [] [] false
          []).1.direct) = some true ∧
    ∀ w, run (World.step .ascii ⟨0, .random, 1000, 0⟩) (World.start 1000) learnRun = some w →
      ∃ l : Lesson, l.Given .ascii ⟨0, .random, 1000, 0⟩ (World.start 1000) w
          (.v4 [93, 184, 216, 34]) ∧
        matchesBypass l.qname w.bypass = true ∧ w.now < l.before.now + clampTtl l.ttl := by
  refine ⟨by decide +kernel, fun w hw => ?_⟩
  have hdirect : (resolveDomainSplitRoute (splitPolicy .ascii w w w) "93.184.216.34" 80 [] [] false
      []).1.direct = true := by
    have hall : (run (World.step .ascii ⟨0, .random, 1000, 0⟩) (World.start 1000) learnRun).all
        (fun w => (resolveDomainSplitRoute (splitPolicy .ascii w w w) "93.184.216.34" 80 [] [] false
          []).1.direct) = true := by decide +kernel
    rw [hw] at hall
    exact hall
  rcases (direct_only_with_attribution .ascii _ 1000 (Reachable.of_run hw) w w).1 "93.184.216.34" 80
      [] [] false [] (.v4 [93, 184, 216, 34]) (by decide) (by decide) hdirect with hl | ⟨hno, -⟩
  · exact hl
  · cases hno

end BibaVpn.Client
