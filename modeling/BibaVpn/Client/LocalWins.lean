/-
# Local settings against the invite

A start object may carry an invite, and the caller of
`local_client_options_from_json_str_with_binds` may replace the two local binds.  What is set
locally is to win: the invite should fill in what the object leaves open.  The merge decides that
field by field, each with an expression of its own.

* §1 is the law, for every field.  A field of the object counts as set if it is there and not blank,
  and its value is what its own reader makes of it (a trimmed text, a named mode, a clamped number);
* §2 proves it for the fields where the merge asks the object first;
* §3 is the rest.  Seven fields do not follow the law: the two binds, `server`, `sni`, `insecure`,
  `ws_headers` and `tls_fragment`.  `Quiet` says exactly when an invite does no harm there.
-/
import BibaVpn.Client.StartJson

namespace BibaVpn.Client

open Json Fallible Machine
open Wire (PadMode)

/-! ## 1. The law -/

/-- What holds of a setting, if it is made. -/
def Explicit {α : Type} (setting : Option α) (P : α → Prop) : Prop := ∀ v, setting = some v → P v

theorem explicit_none {α : Type} {P : α → Prop} : Explicit none P := fun _ h => nomatch h

theorem explicit_some {α : Type} {P : α → Prop} {v : α} : Explicit (some v) P ↔ P v := by
  constructor
  · intro h
    exact h v rfl
  · intro h w hw
    cases hw
    exact h

/-- **The fields for which the merge asks the object first.** -/
structure Uncontested (c : Codecs) (j : StartJson) (opts : LocalClientOptions) : Prop where
  token : Explicit (j.token.bind Text.nonBlank) (Text.trim opts.token = ·)
  socksAuth : Explicit (j.socksAuthUser.bind Text.nonBlank) fun u =>
    Explicit (j.socksAuthPassword.bind Text.nonBlank) fun p => opts.socksAuth = some (u, p)
  maxPad : Explicit j.maxPad (opts.maxPad = ·)
  junkFrames : Explicit j.junkFrames (opts.junkFrames = ·)
  earlyWsFrames : Explicit j.earlyWsFrames (opts.earlyWsFrames = ·)
  psk : Explicit (j.psk.bind Text.nonBlank) (opts.psk.map Text.trim = some ·)
  decoyMax : Explicit j.decoyMax (opts.decoyMax = ·)
  wsHost : Explicit (j.wsHost.bind Text.nonBlank) (opts.wsHost = some ·)
  wsOrigin : Explicit (j.wsOrigin.bind Text.nonBlank) (opts.wsOrigin = some ·)
  wsUserAgent : Explicit (j.wsUserAgent.bind Text.nonBlank) (opts.wsUserAgent = some ·)
  wsAcceptLanguage :
    Explicit (j.wsAcceptLanguage.bind Text.nonBlank) (opts.wsAcceptLanguage = some ·)
  maxWsBinary : Explicit j.maxWsBinary (opts.maxWsBinary = ·)
  wsPingSecs : Explicit j.wsPingSecs (opts.wsPingSecs = ·)
  wsPingJitterPercent : Explicit j.wsPingJitterPercent (opts.wsPingJitterPercent = ·)
  wsBinarySendJitterMs : Explicit j.wsBinarySendJitterMs (opts.wsBinarySendJitterMs = ·)
  wsJitterMinMs : Explicit j.wsJitterMinMs (opts.wsJitterMinMs = ·)
  wsJitterMaxMs : Explicit j.wsJitterMaxMs (opts.wsJitterMaxMs = ·)
  udpMaxPad : Explicit j.udpMaxPad (opts.udpMaxPad = some ·)
  udpMaxWsBinary : Explicit j.udpMaxWsBinary (opts.udpMaxWsBinary = some ·)
  udpMuxReplyTimeoutSecs : Explicit j.udpMuxReplyTimeoutSecs (opts.udpMuxReplyTimeoutSecs = ·)
  fingerprint : Explicit (j.fingerprint.bind Text.nonBlank) fun f =>
    TlsClientProfile.fromFingerprintStr c.quote f = .ok opts.tlsProfile
  /-- a fingerprint comes before a profile, by its description -/
  tlsProfile : j.fingerprint.bind Text.nonBlank = none →
    Explicit (j.tlsProfile.bind Text.nonBlank) fun t =>
      TlsClientProfile.fromStr c.quote t = .ok opts.tlsProfile
  pinCertPem : Explicit (j.pinCertPem.bind Text.nonBlank) fun s =>
    opts.pinnedCertsPem = some (Text.toUtf8 s)
  wsPath : Explicit j.wsPath (opts.wsPath = normalizeWsPath ·)
  useTcpMux : Explicit j.useTcpMux (opts.useTcpMux = ·)
  padMode : Explicit (j.padMode.bind Text.nonBlank) (padModeFromStr c.quote · = .ok opts.padMode)
  dummyIntervalSecs : Explicit j.dummyIntervalSecs (opts.dummyIntervalSecs = ·)
  decoyGets : Explicit j.decoyGets (opts.decoyGets = ·)
  decoyGetsIntervalSecs : Explicit j.decoyGetsIntervalSecs (opts.decoyGetsIntervalSecs = ·)
  decoyGetsPaths : Explicit j.decoyGetsPaths fun s =>
    splitPaths s ≠ [] → opts.decoyGetsPaths = splitPaths s
  proto : Explicit j.proto (opts.proto = ·)
  protoDomain : Explicit (j.protoDomain.bind Text.nonBlank) (opts.protoDomain = ·)
  decoyMode : Explicit (j.decoyMode.bind Text.nonBlank)
    (DecoyMode.fromStr c.quote · = .ok opts.decoyMode)
  desyncMode :
    Explicit (j.desyncMode.bind Text.nonBlank) (DesyncMode.fromStr c.quote · = .ok opts.desyncMode)
  tcpFooling :
    Explicit (j.tcpFooling.bind Text.nonBlank) (TcpFooling.fromStr c.quote · = .ok opts.tcpFooling)
  wsParallel : Explicit j.wsParallel (opts.wsParallel = clampParallel ·)
  muxWindowMib : opts.muxWindowMib = j.muxWindowMib
  idleDecoySecs : Explicit j.idleDecoySecs (opts.idleDecoySecs = ·)
  stealthProfile : Explicit (j.stealthProfile.bind Text.nonBlank) fun s =>
    ∃ p, StealthProfile.fromStr c.quote s = .ok p ∧ opts.stealthProfile = some p
  tlsStack : Explicit (j.tlsStack.bind Text.nonBlank)
    (TlsStack.fromStr c.quote · = .ok opts.tlsStack)

/-- **Local settings win**, for the object `o` that is read as `j` and the binds that are given. -/
structure LocalWins (c : Codecs) (o : Object) (j : StartJson) (socksBind : Text)
    (httpProxyBind : Option Text) (opts : LocalClientOptions) : Prop
    extends Uncontested c j opts where
  socksBind : opts.socksBind = socksBind
  httpProxyBind : opts.httpProxyBind = httpProxyBind
  server : Explicit (Text.nonBlank j.server) fun s =>
    parseHostPort s = .ok (opts.serverHost, opts.serverPort)
  sni : Explicit (j.sni.bind Text.nonBlank) (opts.sni = ·)
  insecure : ∀ b, o.get "insecure" = some (.bool b) → opts.insecureTls = b
  wsHeaders : o.get "ws_headers" ≠ none →
    j.wsHeaders.mapM (parseWsHeader c.quote) = .ok opts.wsExtraHeaders
  tlsFragment : ∀ b, o.get "tls_fragment" = some (.bool b) → opts.tlsFragment = b

/-- **The invite does no harm**: where it is asked first, it says nothing else. -/
structure Quiet (o : Object) (j : StartJson) (inv : Option InviteV1) (socksBind : Text)
    (httpProxyBind : Option Text) : Prop where
  socksBind : Explicit ((inv.bind (·.socksBind)).bind Text.nonBlank) (· = socksBind)
  /-- a bind that is given is trimmed and not blank; if none is given, the invite has none -/
  httpProxyBind : Explicit httpProxyBind (fun b => Text.trim b = b ∧ b ≠ []) ∧
    (httpProxyBind = none → (inv.bind (·.httpProxy)).bind Text.nonBlank = none)
  server : Explicit (Text.nonBlank j.server) fun s => Explicit inv fun i =>
    parseHostPort s = parseHostPort (Text.trim i.server)
  /-- the REALITY target of the invite has no name, or the given one -/
  sni : Explicit (j.sni.bind Text.nonBlank) fun s => Explicit (inv.bind (·.realityTarget)) fun t =>
    extractSni t = [] ∨ extractSni t = s
  insecure : o.get "insecure" = some (.bool false) → Explicit inv (·.insecure = false)
  wsHeaders : o.get "ws_headers" ≠ none → Explicit inv (·.wsHeaders = [])
  tlsFragment : ∀ b, o.get "tls_fragment" = some (.bool b) → Explicit inv (·.tlsFragment = b)

/-! ## 2. Where the object is asked first -/

theorem orInvite_of_some {α : Type} {json : Option α} {v : α} (h : json = some v)
    (inv : Option InviteV1) (f : InviteV1 → α) (d : α) : orInvite json inv f d = v := by
  rw [h]
  rfl

theorem jsonOrInviteStr_of_some {json : Option Text} {s : Text}
    (h : json.bind Text.nonBlank = some s) (invite : Option Text) :
    jsonOrInviteStr json invite = some s := by
  rw [jsonOrInviteStr, h]
  rfl

theorem bind_nonBlank_bind (s : Option Text) :
    (s.bind Text.nonBlank).bind Text.nonBlank = s.bind Text.nonBlank := by
  cases s with
  | none => rfl
  | some s => exact Text.nonBlank_bind_nonBlank s

theorem pickMode_of_some {α : Type} {fromStr : Text → Except String α} {what : String}
    {json invite : Option Text} {d a : α} {s : Text} (h : json.bind Text.nonBlank = some s)
    (hpick : pickMode fromStr what json invite d = .ok a) : fromStr s = .ok a := by
  rw [pickMode, h] at hpick
  exact context_eq_ok.mp hpick

section Merge

variable {c : Codecs} {j : StartJson} {inv : Option InviteV1} {opts : LocalClientOptions}

theorem Merged.trim_token (hm : Merged c j inv opts) {t : Text}
    (ht : j.token.bind Text.nonBlank = some t) : Text.trim opts.token = t := by
  have htok := hm.token
  unfold resolveToken at htok
  cases inv with
  | none =>
    simp only [ht] at htok
    obtain ⟨s, -, hs⟩ := Option.bind_eq_some_iff.mp ht
    obtain ⟨rfl, -⟩ := Text.nonBlank_eq_some_iff.mp hs
    rw [← Except.ok.inj htok, Text.trim_trim]
  | some i =>
    simp only [ht] at htok
    split at htok
    · rename_i heq
      rw [← Except.ok.inj htok, heq]
    · cases htok

theorem Merged.trim_psk (hm : Merged c j inv opts) {p : Text}
    (hp : j.psk.bind Text.nonBlank = some p) : opts.psk.map Text.trim = some p := by
  have hpsk := hm.psk
  obtain ⟨s, hs, hsp⟩ := Option.bind_eq_some_iff.mp hp
  obtain ⟨rfl, -⟩ := Text.nonBlank_eq_some_iff.mp hsp
  unfold resolvePsk at hpsk
  cases inv with
  | none =>
    rw [← Except.ok.inj hpsk, hs]
    rfl
  | some i =>
    -- the trimmed PSK of the object, with or without one in the invite
    have hopts : opts.psk = some (Text.trim s) := by
      cases hi : i.psk with
      | none =>
        simp only [hp, hi] at hpsk
        exact (Except.ok.inj hpsk).symm
      | some b =>
        simp only [hp, hi] at hpsk
        split at hpsk
        · exact (Except.ok.inj hpsk).symm
        · cases hpsk
    rw [hopts, Option.map_some, Text.trim_trim]

theorem Merged.auth (hm : Merged c j inv opts) {u p : Text}
    (hu : j.socksAuthUser.bind Text.nonBlank = some u)
    (hp : j.socksAuthPassword.bind Text.nonBlank = some p) : opts.socksAuth = some (u, p) := by
  have hauth := hm.socksAuth
  unfold resolveSocksAuth at hauth
  obtain ⟨pair, hpair, hauth⟩ := bind_eq_ok.mp hauth
  simp only [authPair, hu, hp] at hpair
  cases hpair
  exact (Except.ok.inj hauth).symm

theorem Merged.jitter (hm : Merged c j inv opts)
    (hset : (j.wsJitterMinMs.isSome || j.wsJitterMaxMs.isSome) = true) :
    opts.wsJitterMinMs = orInvite j.wsJitterMinMs inv (·.wsJitterMinMs) 0 ∧
      opts.wsJitterMaxMs = orInvite j.wsJitterMaxMs inv (·.wsJitterMaxMs) 0 := by
  have hjitter := hm.wsJitter
  simp only [resolveJitter, hset, Bool.true_or, if_true, applyPresetWsJitter] at hjitter
  exact Prod.mk.inj hjitter

/-- **Most of the fields follow the law.** -/
theorem Merged.uncontested (hm : Merged c j inv opts) : Uncontested c j opts where
  token _ ht := hm.trim_token ht
  socksAuth _ hu _ hp := hm.auth hu hp
  maxPad _ h := hm.maxPad.trans (orInvite_of_some h _ _ _)
  junkFrames _ h := hm.junkFrames.trans (orInvite_of_some h _ _ _)
  earlyWsFrames _ h := hm.earlyWsFrames.trans (orInvite_of_some h _ _ _)
  psk _ hp := hm.trim_psk hp
  decoyMax _ h := hm.decoyMax.trans (orInvite_of_some h _ _ _)
  wsHost _ h := hm.wsHost.trans (jsonOrInviteStr_of_some h _)
  wsOrigin _ h := hm.wsOrigin.trans (jsonOrInviteStr_of_some h _)
  wsUserAgent _ h := hm.wsUserAgent.trans (jsonOrInviteStr_of_some h _)
  wsAcceptLanguage _ h := hm.wsAcceptLanguage.trans (jsonOrInviteStr_of_some h _)
  maxWsBinary _ h := hm.maxWsBinary.trans (orInvite_of_some h _ _ _)
  wsPingSecs _ h := hm.wsPingSecs.trans (orInvite_of_some h _ _ _)
  wsPingJitterPercent _ h := hm.wsPingJitterPercent.trans (orInvite_of_some h _ _ _)
  wsBinarySendJitterMs _ h := hm.wsBinarySendJitterMs.trans (orInvite_of_some h _ _ _)
  wsJitterMinMs _ h := (hm.jitter (by rw [h]; rfl)).1.trans (orInvite_of_some h _ _ _)
  wsJitterMaxMs _ h :=
    (hm.jitter (by rw [h, Bool.or_comm]; rfl)).2.trans (orInvite_of_some h _ _ _)
  udpMaxPad _ h := by rw [hm.udpMaxPad, h]; rfl
  udpMaxWsBinary _ h := by rw [hm.udpMaxWsBinary, h]; rfl
  udpMuxReplyTimeoutSecs _ h := hm.udpMuxReplyTimeoutSecs.trans (orInvite_of_some h _ _ _)
  fingerprint f h := by
    obtain ⟨embedded, -, htls⟩ := hm.tlsProfile
    simp only [resolveTlsClientProfile, bind_nonBlank_bind] at htls
    simp only [h] at htls
    exact htls
  tlsProfile hnone t h := by
    obtain ⟨embedded, -, htls⟩ := hm.tlsProfile
    simp only [resolveTlsClientProfile, bind_nonBlank_bind] at htls
    simp only [h, hnone] at htls
    exact htls
  pinCertPem _ h := by rw [hm.pinnedCertsPem, jsonOrInviteStr_of_some h]; rfl
  wsPath _ h := by rw [hm.wsPath, h]; rfl
  useTcpMux _ h := hm.useTcpMux.trans (orInvite_of_some h _ _ _)
  padMode s h := by
    have hpad := hm.padMode
    rw [resolvePadMode, h] at hpad
    exact context_eq_ok.mp hpad
  dummyIntervalSecs _ h := by rw [hm.dummyIntervalSecs, h]; rfl
  decoyGets _ h := by
    rw [hm.decoyGets]
    simp only [resolveDecoyGets, h]
  decoyGetsIntervalSecs _ h := hm.decoyGetsIntervalSecs.trans (orInvite_of_some h _ _ _)
  decoyGetsPaths s h hne := by
    rw [hm.decoyGetsPaths, resolveDecoyPaths, h, Option.map_some, Option.getD_some]
    exact if_neg (by rwa [List.isEmpty_iff])
  proto _ h := hm.proto.1.trans (orInvite_of_some h _ _ _)
  protoDomain _ h := by rw [hm.protoDomain, jsonOrInviteStr_of_some h]; rfl
  decoyMode _ h := pickMode_of_some h hm.decoyMode
  desyncMode _ h := pickMode_of_some h hm.desyncMode
  tcpFooling _ h := pickMode_of_some h hm.tcpFooling
  wsParallel _ h := by rw [hm.wsParallel, orInvite_of_some h]
  muxWindowMib := hm.muxWindowMib
  idleDecoySecs _ h := by rw [hm.idleDecoySecs, h]; rfl
  stealthProfile s h := by
    obtain ⟨p, hp, heq⟩ := map_eq_ok.mp (pickMode_of_some h hm.stealthProfile)
    exact ⟨p, hp, heq.symm⟩
  tlsStack s h := by
    have hstack := hm.tlsStack
    simp only [resolveTlsStack, h] at hstack
    exact hstack

end Merge

/-! ## 3. Where the invite is asked first -/

section Contested

variable {c : Codecs} {o : Object} {j : StartJson} {inv : Option InviteV1}
  {opts : LocalClientOptions} {socksBind : Text} {httpProxyBind : Option Text}

/-- What the object with the binds is read as. -/
structure Binds (o : Object) (socksBind : Text) (httpProxyBind : Option Text) (j : StartJson) :
    Prop where
  socksBind : j.socksBind = socksBind
  httpProxy : j.httpProxy = httpProxyBind
  insecure : ∀ b, o.get "insecure" = some (.bool b) → j.insecure = b
  tlsFragment : ∀ b, o.get "tls_fragment" = some (.bool b) → j.tlsFragment = b

theorem StartJson.ReadFrom.binds (h : j.ReadFrom (withBinds o socksBind httpProxyBind)) :
    Binds o socksBind httpProxyBind j where
  socksBind := by
    have hread := h.socksBind
    rw [Object.fieldOr, get_withBinds, if_neg (by decide), if_pos rfl] at hread
    exact (Except.ok.inj hread).symm
  httpProxy := by
    have hread := h.httpProxy
    rw [Object.field, get_withBinds, if_pos rfl, fieldOf_text] at hread
    exact (Except.ok.inj hread).symm
  insecure b hb := by
    have hread := h.insecure
    rw [Object.fieldOr, get_withBinds, if_neg (by decide), if_neg (by decide), hb] at hread
    exact (Except.ok.inj hread).symm
  tlsFragment b hb := by
    have hread := h.tlsFragment
    rw [Object.fieldOr, get_withBinds, if_neg (by decide), if_neg (by decide), hb] at hread
    exact (Except.ok.inj hread).symm

theorem Merged.socksBind_iff (hm : Merged c j inv opts) (hb : Binds o socksBind httpProxyBind j) :
    opts.socksBind = socksBind ↔
      Explicit ((inv.bind (·.socksBind)).bind Text.nonBlank) (· = socksBind) := by
  rw [hm.socksBind, hb.socksBind]
  cases (inv.bind (·.socksBind)).bind Text.nonBlank with
  | none => exact iff_of_true rfl explicit_none
  | some t =>
    rw [explicit_some]
    exact Iff.rfl

theorem Merged.server_iff (hm : Merged c j inv opts) {s : Text}
    (hs : Text.nonBlank j.server = some s) :
    parseHostPort s = .ok (opts.serverHost, opts.serverPort) ↔
      Explicit inv fun i => parseHostPort s = parseHostPort (Text.trim i.server) := by
  have hserver := hm.server
  obtain ⟨rfl, hne⟩ := Text.nonBlank_eq_some_iff.mp hs
  cases inv with
  | none =>
    rw [resolveServer, if_neg (by rwa [List.isEmpty_iff])] at hserver
    exact iff_of_true (context_eq_ok.mp hserver) explicit_none
  | some i => rw [explicit_some, context_eq_ok.mp hserver]

theorem jsonOrInviteStr_eq_self_iff (given invite : Option Text) :
    jsonOrInviteStr given invite = given ↔ Explicit given (fun b => Text.trim b = b ∧ b ≠ []) ∧
      (given = none → invite.bind Text.nonBlank = none) := by
  cases given with
  | none => exact ⟨fun h => ⟨explicit_none, fun _ => h⟩, fun h => h.2 rfl⟩
  | some b =>
    rw [explicit_some]
    refine ⟨fun h => ⟨?_, nofun⟩, fun h => ?_⟩
    · -- what comes out is trimmed and not blank, from the bind as from the invite
      obtain ⟨t, ht⟩ : ∃ t, Text.nonBlank t = some b := by
        rw [jsonOrInviteStr, Option.or_eq_some_iff] at h
        rcases h with h | ⟨-, h⟩
        · exact ⟨b, h⟩
        · obtain ⟨t, -, ht⟩ := Option.bind_eq_some_iff.mp h
          exact ⟨t, ht⟩
      obtain ⟨rfl, hne⟩ := Text.nonBlank_eq_some_iff.mp ht
      exact ⟨Text.trim_trim t, hne⟩
    · have hset : (some b).bind Text.nonBlank = some b := Text.nonBlank_eq_some_iff.mpr h.1
      exact jsonOrInviteStr_of_some hset invite

theorem effectiveTlsSni_eq_self_iff (s : Text) (target : Option Text) :
    effectiveTlsSni s target = s ↔
      Explicit target fun t => extractSni t = [] ∨ extractSni t = s := by
  cases target with
  | none => exact iff_of_true rfl explicit_none
  | some t =>
    rw [explicit_some, effectiveTlsSni, Option.map_some, Option.filter_some]
    by_cases hnil : extractSni t = []
    · simp [hnil]
    · simp [hnil]

theorem Merged.sni_iff (hm : Merged c j inv opts) {s : Text}
    (hs : j.sni.bind Text.nonBlank = some s) :
    opts.sni = s ↔ Explicit (inv.bind (·.realityTarget)) fun t =>
      extractSni t = [] ∨ extractSni t = s := by
  have hresolve : resolveSni j opts.serverHost inv = s := by
    cases inv with
    | none => rw [resolveSni, jsonOrInviteStr_of_some hs]; rfl
    | some i => rw [resolveSni, jsonOrInviteStr_of_some hs]; rfl
  rw [hm.sni, hresolve, hm.realityTarget, effectiveTlsSni_eq_self_iff]

theorem Merged.insecure_iff (hm : Merged c j inv opts) (hb : Binds o socksBind httpProxyBind j) :
    (∀ b, o.get "insecure" = some (.bool b) → opts.insecureTls = b) ↔
      (o.get "insecure" = some (.bool false) → Explicit inv (·.insecure = false)) := by
  constructor
  · intro h hget i hi
    have hopts := h false hget
    rw [hm.insecureTls, hi, Bool.or_eq_false_iff] at hopts
    exact hopts.2
  · intro h b hget
    rw [hm.insecureTls, hb.insecure b hget]
    cases b with
    | true => rfl
    | false =>
      cases inv with
      | none => rfl
      | some i => exact h hget i rfl

theorem mapM_eq_nil_iff {f : Text → Except String (Text × Text)} {lines : List Text}
    {headers : List (Text × Text)} (h : lines.mapM f = .ok headers) :
    headers = [] ↔ lines = [] := by
  cases lines with
  | nil =>
    cases h
    exact iff_of_true rfl rfl
  | cons line lines =>
    rw [List.mapM_cons] at h
    obtain ⟨header, -, h⟩ := bind_eq_ok.mp h
    obtain ⟨headers', -, h⟩ := bind_eq_ok.mp h
    cases h
    simp

theorem Merged.wsHeaders_iff (hm : Merged c j inv opts) :
    j.wsHeaders.mapM (parseWsHeader c.quote) = .ok opts.wsExtraHeaders ↔
      Explicit inv (·.wsHeaders = []) := by
  obtain ⟨ih, jh, hih, hjh, hopts⟩ := hm.wsExtraHeaders
  rw [hjh, hopts, Except.ok.injEq, eq_comm, List.append_left_eq_self, mapM_eq_nil_iff hih]
  cases inv with
  | none => exact iff_of_true rfl explicit_none
  | some i =>
    rw [explicit_some]
    exact Iff.rfl

theorem Merged.tlsFragment_iff (hm : Merged c j inv opts) (hb : Binds o socksBind httpProxyBind j)
    {b : Bool} (hget : o.get "tls_fragment" = some (.bool b)) :
    opts.tlsFragment = b ↔ Explicit inv (·.tlsFragment = b) := by
  rw [hm.tlsFragment, hb.tlsFragment b hget]
  cases inv with
  | none => exact iff_of_true rfl explicit_none
  | some i =>
    rw [explicit_some]
    exact Iff.rfl

theorem Merged.localWins_iff (hm : Merged c j inv opts) (hb : Binds o socksBind httpProxyBind j) :
    LocalWins c o j socksBind httpProxyBind opts ↔ Quiet o j inv socksBind httpProxyBind := by
  have hhttp := jsonOrInviteStr_eq_self_iff httpProxyBind (inv.bind (·.httpProxy))
  rw [← hb.httpProxy, ← hm.httpProxyBind, hb.httpProxy] at hhttp
  constructor
  · intro hw
    exact {
      socksBind := (hm.socksBind_iff hb).mp hw.socksBind
      httpProxyBind := hhttp.mp hw.httpProxyBind
      server := fun s hs => (hm.server_iff hs).mp (hw.server s hs)
      sni := fun s hs => (hm.sni_iff hs).mp (hw.sni s hs)
      insecure := (hm.insecure_iff hb).mp hw.insecure
      wsHeaders := fun hget => hm.wsHeaders_iff.mp (hw.wsHeaders hget)
      tlsFragment := fun b hget => (hm.tlsFragment_iff hb hget).mp (hw.tlsFragment b hget) }
  · intro hq
    exact { hm.uncontested with
      socksBind := (hm.socksBind_iff hb).mpr hq.socksBind
      httpProxyBind := hhttp.mpr hq.httpProxyBind
      server := fun s hs => (hm.server_iff hs).mpr (hq.server s hs)
      sni := fun s hs => (hm.sni_iff hs).mpr (hq.sni s hs)
      insecure := (hm.insecure_iff hb).mpr hq.insecure
      wsHeaders := fun hget => hm.wsHeaders_iff.mpr (hq.wsHeaders hget)
      tlsFragment := fun b hget => (hm.tlsFragment_iff hb hget).mpr (hq.tlsFragment b hget) }

/-- **When local settings win.**  For every object, with any invite in it or none, and every pair of
binds that yield options: all that is set locally has its value in the options if and only if the
invite says nothing else where it is asked first.  Everywhere else the object wins. -/
theorem local_settings_win_iff (c : Codecs) (o : Object) (socksBind : Text)
    (httpProxyBind : Option Text) (installed : Option (List Text)) (opts : LocalClientOptions)
    (h : localClientOptionsFromJsonWithBinds c o socksBind httpProxyBind = (installed, .ok opts)) :
    ∃ j inv, StartJson.read (withBinds o socksBind httpProxyBind) = .ok j ∧
      invitePair c j = .ok inv ∧ Uncontested c j opts ∧
      (LocalWins c o j socksBind httpProxyBind opts ↔ Quiet o j inv socksBind httpProxyBind) := by
  unfold localClientOptionsFromJsonWithBinds localClientOptionsFromJson at h
  split at h
  · cases h
  · rename_i j hread
    split at h
    · cases h
    · obtain ⟨inv, hinv, hm⟩ := merged_of_ok (Prod.mk.inj h).2
      have hb := (StartJson.readFrom_of_read hread).binds
      exact ⟨j, inv, hread, hinv, hm.uncontested, hm.localWins_iff hb⟩

end Contested

/-! ### Two starts -/

/-- An invite with binds of its own. -/
def strangeInvite : InviteV1 where
  server := "vpn.example:443".toList
  sni := "vpn.example".toList
  token := "alice-secret".toList
  proto := 3
  protoDomain := none
  psk := some "0123456789abcdef".toList
  decoyMax := 0
  maxPad := 64
  maxWsBinary := 262144
  wsPingSecs := 25
  wsPingJitterPercent := 0
  wsBinarySendJitterMs := 0
  wsJitterMinMs := 0
  wsJitterMaxMs := 0
  udpMaxPad := none
  udpMaxWsBinary := none
  udpMuxReplyTimeoutSecs := 130
  insecure := true
  tlsProfile := []
  wsPath := none
  padMode := none
  dummyIntervalSecs := none
  httpProxy := some "0.0.0.0:8080".toList
  socksBind := some "0.0.0.0:1080".toList
  socksAuthUser := none
  socksAuthPassword := none
  junkFrames := 0
  earlyWsFrames := 0
  wsHost := none
  wsOrigin := none
  wsUserAgent := none
  wsAcceptLanguage := none
  wsHeaders := []
  useTcpMux := true
  decoyGets := false
  decoyGetsIntervalSecs := 30
  decoyGetsPaths := none
  fingerprint := none
  stealthProfile := none
  decoyMode := none
  desyncMode := none
  tcpFooling := none
  tlsFragment := false
  wsParallel := 4
  idleDecoySecs := none
  tlsStack := "rustls".toList
  realityTarget := none
  realityPublicKey := none
  realityShortId := none
  pinCertPem := none

def inviteCodecs : Codecs where
  decodeInvite := fun _ _ => .ok strangeInvite
  decodeBase64 := fun _ => .ok (List.replicate 32 0)
  decodeHex := fun _ => .ok (List.replicate 8 0)
  quote := String.ofList

/-- An object with an invite, that asks for fragments, for no more than two connections, and for
certificates to be checked. -/
def invitedStart : Object := .ofEntries
  [("from_invite", some (.str "biba://x".toList)), ("invite_passphrase", some (.str "p".toList)),
    ("tls_fragment", some (.bool true)), ("ws_parallel", some (.num 2)),
    ("insecure", some (.bool false))]

/-- The same invite without them, which asks for fragments as well. -/
def quietCodecs : Codecs :=
  { inviteCodecs with
    decodeInvite := fun _ _ => .ok { strangeInvite with
      socksBind := none, httpProxy := none, insecure := false, tlsFragment := true } }

/-- With this invite the settings of the object win. -/
theorem local_settings_win_iff_quiet : ∃ j opts,
    (localClientOptionsFromJsonWithBinds quietCodecs invitedStart "127.0.0.1:1081".toList none).2 =
      .ok opts ∧
    (opts.tlsFragment, opts.insecureTls, opts.wsParallel) = (true, false, 2) ∧
    LocalWins quietCodecs invitedStart j "127.0.0.1:1081".toList none opts := by
  have hopts : (localClientOptionsFromJsonWithBinds quietCodecs invitedStart
      "127.0.0.1:1081".toList none).2.map
        (fun opts => (opts.tlsFragment, opts.insecureTls, opts.wsParallel)) =
      .ok (true, false, 2) := by decide +kernel
  have hstart : (StartJson.read (withBinds invitedStart "127.0.0.1:1081".toList none)).map
      (fun j => (j.fromInvite.bind Text.nonBlank, j.invitePassphrase.bind Text.nonBlank,
        Text.nonBlank j.server)) =
      .ok (some "biba://x".toList, some ['p'], none) := by decide +kernel
  obtain ⟨opts, hok, hfields⟩ := map_eq_ok.mp hopts
  obtain ⟨j, inv, hread, hinv, -, hiff⟩ := local_settings_win_iff quietCodecs invitedStart
    "127.0.0.1:1081".toList none _ opts (Prod.ext rfl hok)
  rw [hread] at hstart
  obtain ⟨hfrom, hpass, hserver⟩ : _ ∧ _ ∧ _ := by simpa using Except.ok.inj hstart
  rw [invitePair, hfrom, hpass] at hinv
  cases hinv
  refine ⟨j, opts, hok, hfields, hiff.mpr ?_⟩
  exact {
    socksBind := explicit_none
    httpProxyBind := ⟨explicit_none, fun _ => rfl⟩
    server := hserver ▸ explicit_none
    sni := fun _ _ => explicit_none
    insecure := fun _ => explicit_some.mpr rfl
    wsHeaders := fun hget => absurd rfl hget
    tlsFragment := fun b hget => by
      cases hget
      exact explicit_some.mpr rfl }

/-- **The invite decides where the proxies listen**, and that certificates are not checked. -/
theorem invite_overrides_local :
    (localClientOptionsFromJsonWithBinds inviteCodecs invitedStart
        "127.0.0.1:1081".toList none).2.map
        (fun opts => (opts.socksBind, opts.httpProxyBind, opts.tlsFragment, opts.insecureTls,
          opts.wsParallel)) =
      .ok ("0.0.0.0:1080".toList, some "0.0.0.0:8080".toList, false, true, 2) := by
  decide +kernel

end BibaVpn.Client
