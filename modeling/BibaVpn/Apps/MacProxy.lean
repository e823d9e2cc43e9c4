/-
# The system proxy of macOS

`proxy_mac.rs` sets the proxies of a network service while the tunnel is up, and puts them back when
it goes down.  Between the two the user may have changed them, and `restore_service` guesses whose a
setting is from what it finds: a loopback proxy, a disabled SOCKS proxy and a list that holds all
required entries are its own.

* §1 is the code, over a service whose commands all succeed; `networksetup` clears the list of
  exceptions when it is given the one word `Empty`;
* §2: what was applied is undone, but for an enabled proxy without a server, which is left disabled,
  and for a list that is that word (`undone_iff`);
* §3: what the user has changed stays exactly if it is not taken for a setting of Biba
  (`restore_exact_iff`).  A list to which the user has added a domain still holds the required
  entries: it is taken for Biba's and the domain is lost (`added_domain_is_lost`).
-/
import BibaVpn.Lib.NoCase

namespace BibaVpn.Apps.MacProxy

open NoCase

/-! ## 1. The code -/

/-- `ProxySlot`. -/
@[ext] structure ProxySlot where
  enabled : Bool
  server : Text
  port : Nat
  deriving DecidableEq, Repr

/-- A network service; `ServiceProxyBackup` is a copy of it. -/
structure Service where
  web : ProxySlot
  secure : ProxySlot
  socks : ProxySlot
  bypassDomains : List Text
  deriving DecidableEq, Repr

/-- `slot_eq`. -/
def slotEq (a b : ProxySlot) : Bool :=
  if a.enabled != b.enabled then false
  else if !a.enabled then true
  else a.port == b.port && Text.eqIgnoreAsciiCase a.server b.server

/-- `is_loopback_slot`. -/
def isLoopbackSlot (slot : ProxySlot) : Bool :=
  slot.enabled && (["127.0.0.1", "localhost", "::1"].map String.toList).contains
    (Text.toAsciiLowercase (Text.trim slot.server))

/-- `domains_eq`. -/
def domainsEq (a b : List Text) : Bool := a.length == b.length && a.all (has b)

/-- `REQUIRED_BYPASS`. -/
def requiredBypass : List Text :=
  ["127.0.0.1", "localhost", "*.local", "10.0.0.0/8", "172.16.0.0/12", "192.168.0.0/16",
    "169.254.0.0/16", "100.64.0.0/10", "fc00::/7", "fe80::/10", "tauri.localhost",
    "steamloopback.host", "*.steamloopback.host", "client-update.steamstatic.com",
    "client-update.akamai.steamstatic.com",
    "client-update.fastly.steamstatic.com"].map String.toList

/-- `bypass_contains_required`. -/
def bypassContainsRequired (domains : List Text) : Bool := requiredBypass.all (has domains)

/-- `merge_bypass_for_apply`. -/
def mergeBypassForApply (saved splitTunnel : List Text) : List Text :=
  let v := extend (extend saved (splitTunnel.map Text.trim)) requiredBypass
  if v.isEmpty then ["127.0.0.1", "localhost", "*.local"].map String.toList else v

/-- `-setwebproxy`, `-setsecurewebproxy`, `-setsocksfirewallproxy`: they also turn the proxy on. -/
def setProxy (server : Text) (port : Nat) (_ : ProxySlot) : ProxySlot := ⟨true, server, port⟩

/-- `-setwebproxystate` and the like. -/
def setState (on : Bool) (slot : ProxySlot) : ProxySlot := { slot with enabled := on }

/-- `-setproxybypassdomains`. -/
def setBypassDomains (domains : List Text) : List Text :=
  if domains = ["Empty".toList] then [] else domains

/-- `apply_to_service`. -/
def applyToService (httpHost : Text) (httpPort : Nat) (splitTunnelHosts savedBypass : List Text)
    (s : Service) : Service where
  web := setState true (setProxy httpHost httpPort s.web)
  secure := setState true (setProxy httpHost httpPort s.secure)
  socks := setState false s.socks
  bypassDomains := setBypassDomains (mergeBypassForApply savedBypass splitTunnelHosts)

/-- `restore_slot`. -/
def restoreSlot (saved cur : ProxySlot) : ProxySlot :=
  if saved.enabled && !saved.server.isEmpty then
    setState true (setProxy saved.server saved.port cur)
  else setState false cur

/-- A web proxy that looks like Biba's, or is the saved one, is restored. -/
def restoreWeb (saved cur : ProxySlot) : ProxySlot :=
  if isLoopbackSlot cur || slotEq cur saved then restoreSlot saved cur else cur

/-- A SOCKS proxy that is off, or the saved one, is restored. -/
def restoreSocks (saved cur : ProxySlot) : ProxySlot :=
  if !cur.enabled || slotEq cur saved then restoreSlot saved cur else cur

/-- A list with all required entries that is not the saved one is restored. -/
def restoreBypass (saved cur : List Text) : List Text :=
  if !domainsEq cur saved && bypassContainsRequired cur then
    if saved.isEmpty then setBypassDomains ["Empty".toList] else setBypassDomains saved
  else cur

/-- `restore_service`, of a service that is found as `cur`. -/
def restoreService (s cur : Service) : Service where
  web := restoreWeb s.web cur.web
  secure := restoreWeb s.secure cur.secure
  socks := restoreSocks s.socks cur.socks
  bypassDomains := restoreBypass s.bypassDomains cur.bypassDomains

/-- A service while the tunnel is up: `http_host_port` is always `127.0.0.1` and a port. -/
def applied (s : Service) (httpPort : Nat) (splitTunnelHosts : List Text) : Service :=
  applyToService "127.0.0.1".toList httpPort splitTunnelHosts s.bypassDomains s

/-! ## 2. Undoing -/

/-- The same settings; the server and port of a disabled proxy do not count. -/
def ProxySlot.Same (a b : ProxySlot) : Prop := a.enabled = b.enabled ∧ (a.enabled = true → a = b)

def Service.Same (s t : Service) : Prop :=
  s.web.Same t.web ∧ s.secure.Same t.secure ∧ s.socks.Same t.socks ∧
  s.bypassDomains = t.bypassDomains

/-- A proxy that is enabled has a server. -/
def ProxySlot.Named (slot : ProxySlot) : Prop := slot.enabled = true → slot.server ≠ []

theorem restoreSlot_named {saved : ProxySlot} (h : saved.enabled = true) (hn : saved.server ≠ [])
    (cur : ProxySlot) : restoreSlot saved cur = saved := by
  rw [restoreSlot, if_pos (by simp [h, hn])]
  exact ProxySlot.ext h.symm rfl rfl

theorem restoreSlot_off {saved : ProxySlot} (h : ¬ (saved.enabled = true ∧ saved.server ≠ []))
    (cur : ProxySlot) : restoreSlot saved cur = { cur with enabled := false } := by
  rw [restoreSlot, if_neg (by simpa using h)]
  rfl

theorem restoreSlot_same_iff (saved cur : ProxySlot) :
    (restoreSlot saved cur).Same saved ↔ saved.Named := by
  by_cases h : saved.enabled = true ∧ saved.server ≠ []
  · rw [restoreSlot_named h.1 h.2]
    exact ⟨fun _ _ => h.2, fun _ => ⟨rfl, fun _ => rfl⟩⟩
  · rw [restoreSlot_off h]
    constructor
    · rintro ⟨hoff, -⟩ hon
      rw [hon] at hoff
      cases hoff
    · intro hnamed
      have hoff : saved.enabled = false := Bool.eq_false_iff.mpr fun hon => h ⟨hon, hnamed hon⟩
      exact ⟨hoff.symm, fun hon => by cases hon⟩

theorem merge_spec (saved split : List Text) :
    ∃ new, mergeBypassForApply saved split = saved ++ new ∧
    bypassContainsRequired (saved ++ new) = true := by
  obtain ⟨new, heq, -, -, hhas⟩ := extend_spec saved (split.map Text.trim ++ requiredBypass)
  have hreq : bypassContainsRequired (saved ++ new) = true := List.all_eq_true.mpr fun t ht => by
    have hne : t ≠ [] := by
      revert t
      decide
    exact hhas t (List.mem_append_right _ ht) hne
  refine ⟨new, ?_, hreq⟩
  have hsome : ¬ (saved ++ new).isEmpty = true := by
    intro hnil
    rw [List.isEmpty_iff.mp hnil] at hreq
    cases hreq
  rw [mergeBypassForApply, ← extend_append, heq]
  exact if_neg hsome

theorem domainsEq_refl (a : List Text) : domainsEq a a = true := by
  rw [domainsEq, beq_self_eq_true, Bool.true_and]
  exact List.all_eq_true.mpr fun _ h => has_of_mem h

theorem ne_empty_of_required {l : List Text} (h : bypassContainsRequired l = true) :
    l ≠ ["Empty".toList] := by
  rintro rfl
  revert h
  decide

theorem setBypassDomains_saved (saved : List Text) :
    (if saved.isEmpty then setBypassDomains ["Empty".toList] else setBypassDomains saved) =
      if saved = ["Empty".toList] then [] else saved := by
  cases saved with
  | nil => rfl
  | cons x xs => rfl

/-- What `apply` makes of the list of exceptions is undone. -/
theorem bypass_undone_iff (saved split : List Text) :
    restoreBypass saved (setBypassDomains (mergeBypassForApply saved split)) = saved ↔
      saved ≠ ["Empty".toList] := by
  obtain ⟨new, hmerge, hreq⟩ := merge_spec saved split
  rw [hmerge, setBypassDomains, if_neg (ne_empty_of_required hreq), restoreBypass, hreq,
    Bool.and_true, setBypassDomains_saved]
  by_cases heq : domainsEq (saved ++ new) saved = true
  · -- a list of the length of the saved one is the saved one
    have hnil : new = [] := by
      rw [domainsEq, Bool.and_eq_true, beq_iff_eq, List.length_append] at heq
      exact List.eq_nil_of_length_eq_zero (by omega)
    rw [hnil, List.append_nil] at hreq heq ⊢
    rw [heq, if_neg (by decide)]
    exact iff_of_true rfl (ne_empty_of_required hreq)
  · rw [Bool.eq_false_iff.mpr heq, if_pos (by decide)]
    by_cases hempty : saved = ["Empty".toList]
    · rw [if_pos hempty, hempty]
      exact iff_of_false (by decide) (by decide)
    · rw [if_neg hempty]
      exact iff_of_true rfl hempty

/-- The settings that `restore_service` can put back. -/
def Service.Restorable (s : Service) : Prop :=
  s.web.Named ∧ s.secure.Named ∧ s.socks.Named ∧ s.bypassDomains ≠ ["Empty".toList]

theorem undone_iff (s : Service) (httpPort : Nat) (split : List Text) :
    (restoreService s (applied s httpPort split)).Same s ↔ s.Restorable := by
  have hweb : ∀ saved, restoreWeb saved ⟨true, "127.0.0.1".toList, httpPort⟩ =
      restoreSlot saved ⟨true, "127.0.0.1".toList, httpPort⟩ := by
    intro saved
    have hloop : isLoopbackSlot ⟨true, "127.0.0.1".toList, httpPort⟩ = true := rfl
    rw [restoreWeb, hloop, Bool.true_or, if_pos rfl]
  have hsocks : ∀ saved server port, restoreSocks saved ⟨false, server, port⟩ =
      restoreSlot saved ⟨false, server, port⟩ := fun _ _ _ => if_pos rfl
  rw [Service.Same, restoreService, applied, applyToService, setProxy, setProxy, setState, setState]
  dsimp only
  rw [hweb, hweb, hsocks, restoreSlot_same_iff, restoreSlot_same_iff, restoreSlot_same_iff,
    bypass_undone_iff, Service.Restorable]

/-! ## 3. Edits of the user -/

/-- The server is this machine, under one of its three names. -/
def ProxySlot.OnLoopback (u : ProxySlot) : Prop :=
  ∃ name ∈ ["127.0.0.1", "localhost", "::1"],
    Text.toAsciiLowercase (Text.trim u.server) = name.toList

/-- An enabled proxy with this port and this server, up to the case of letters. -/
def ProxySlot.SameAddress (u saved : ProxySlot) : Prop :=
  saved.enabled = true ∧ u.port = saved.port ∧ Text.eqIgnoreAsciiCase u.server saved.server = true

/-- **An edit of the web or the secure proxy stays**: the proxy is turned off; or it is the saved
one, with a server; or it is neither on a loopback address nor, in other letters, the saved one. -/
def WebStays (saved u : ProxySlot) : Prop := u.enabled = true →
  (u = saved ∧ u.server ≠ []) ∨ (¬ u.OnLoopback ∧ ¬ u.SameAddress saved)

/-- **An edit of the SOCKS proxy stays**: an enabled one, on a loopback address or not, if it is the
saved one, with a server, or not the saved one in other letters; a disabled one if none was
saved. -/
def SocksStays (saved u : ProxySlot) : Prop :=
  (u.enabled = true → (u = saved ∧ u.server ≠ []) ∨ ¬ u.SameAddress saved) ∧
  (u.enabled = false → ¬ (saved.enabled = true ∧ saved.server ≠ []))

/-- **An edit of the list stays**: the list has the length of the saved one and no entry that is not
there; or a required entry is missing, in any case of letters. -/
def BypassStays (saved u : List Text) : Prop :=
  (u.length = saved.length ∧
      ∀ d ∈ u, ∃ d' ∈ saved, Text.eqIgnoreAsciiCase d' d = true) ∨
    ∃ r ∈ requiredBypass, ∀ d ∈ u, Text.eqIgnoreAsciiCase d r = false

theorem isLoopbackSlot_iff {u : ProxySlot} (hon : u.enabled = true) :
    isLoopbackSlot u = true ↔ u.OnLoopback := by
  rw [isLoopbackSlot, hon, Bool.true_and, List.contains_iff_mem, List.mem_map,
    ProxySlot.OnLoopback]
  exact ⟨fun ⟨name, hmem, heq⟩ => ⟨name, hmem, heq.symm⟩,
    fun ⟨name, hmem, heq⟩ => ⟨name, hmem, heq.symm⟩⟩

theorem slotEq_iff {u saved : ProxySlot} (hon : u.enabled = true) :
    slotEq u saved = true ↔ u.SameAddress saved := by
  unfold slotEq ProxySlot.SameAddress
  cases hsaved : saved.enabled <;> simp [hon]

theorem bypassStays_eq (saved u : List Text) :
    BypassStays saved u ↔ domainsEq u saved = true ∨ bypassContainsRequired u = false := by
  have hmissing : bypassContainsRequired u = false ↔
      ∃ r ∈ requiredBypass, ∀ d ∈ u, Text.eqIgnoreAsciiCase d r = false := by
    simp [bypassContainsRequired, has]
  have hsame : domainsEq u saved = true ↔ u.length = saved.length ∧
      ∀ d ∈ u, ∃ d' ∈ saved, Text.eqIgnoreAsciiCase d' d = true := by
    simp [domainsEq, has]
  rw [hmissing, hsame]
  rfl

theorem slotEq_off {a b : ProxySlot} (h : slotEq a b = true) : a.enabled = b.enabled := by
  unfold slotEq at h
  split at h
  · cases h
  · rename_i hne
    simpa using hne

theorem restoreSlot_eq_self_iff {saved u : ProxySlot} (hon : u.enabled = true) :
    restoreSlot saved u = u ↔ u = saved ∧ u.server ≠ [] := by
  by_cases h : saved.enabled = true ∧ saved.server ≠ []
  · rw [restoreSlot_named h.1 h.2, eq_comm]
    exact ⟨fun heq => ⟨heq, heq ▸ h.2⟩, And.left⟩
  · rw [restoreSlot_off h]
    refine iff_of_false (fun heq => ?_) fun heq => h ⟨heq.1 ▸ hon, heq.1 ▸ heq.2⟩
    rw [← heq] at hon
    cases hon

theorem restoreSlot_off_eq_self_iff {saved u : ProxySlot} (hoff : u.enabled = false) :
    restoreSlot saved u = u ↔ ¬ (saved.enabled = true ∧ saved.server ≠ []) := by
  by_cases h : saved.enabled = true ∧ saved.server ≠ []
  · rw [restoreSlot_named h.1 h.2]
    refine iff_of_false (fun heq => ?_) (not_not_intro h)
    rw [← heq, h.1] at hoff
    cases hoff
  · rw [restoreSlot_off h]
    exact iff_of_true (ProxySlot.ext hoff.symm rfl rfl) h

theorem webStays_iff (saved u : ProxySlot) : restoreWeb saved u = u ↔ WebStays saved u := by
  rw [restoreWeb, ite_eq_right_iff]
  cases hu : u.enabled with
  | true =>
    rw [WebStays, forall_prop_of_true hu, ← restoreSlot_eq_self_iff hu, ← isLoopbackSlot_iff hu,
      ← slotEq_iff hu, ← not_or, ← Bool.or_eq_true, imp_iff_not_or, or_comm]
  | false =>
    refine iff_of_true (fun htaken => ?_) fun hon => absurd (hu.symm.trans hon) Bool.false_ne_true
    have hloop : isLoopbackSlot u = false := by rw [isLoopbackSlot, hu, Bool.false_and]
    rw [hloop, Bool.false_or] at htaken
    refine (restoreSlot_off_eq_self_iff hu).mpr fun hsaved => ?_
    rw [← slotEq_off htaken, hu] at hsaved
    cases hsaved.1

theorem socksStays_iff (saved u : ProxySlot) : restoreSocks saved u = u ↔ SocksStays saved u := by
  rw [restoreSocks, ite_eq_right_iff, SocksStays]
  cases hu : u.enabled with
  | true =>
    rw [forall_prop_of_true rfl, ← restoreSlot_eq_self_iff hu, ← slotEq_iff hu, Bool.not_true,
      Bool.false_or, imp_iff_not_or, or_comm]
    exact ⟨fun h => ⟨h, fun hoff => by cases hoff⟩, And.left⟩
  | false =>
    rw [← restoreSlot_off_eq_self_iff hu]
    exact ⟨fun h => ⟨fun hon => (by cases hon), fun _ => h rfl⟩, fun h _ => h.2 rfl⟩

theorem bypassStays_iff (saved u : List Text) :
    restoreBypass saved u = u ↔ BypassStays saved u := by
  rw [restoreBypass, ite_eq_right_iff, setBypassDomains_saved, bypassStays_eq, Bool.and_eq_true,
    Bool.not_eq_true']
  constructor
  · intro h
    by_contra hstays
    rw [not_or, Bool.not_eq_true, Bool.not_eq_false] at hstays
    have heq := h hstays
    by_cases hempty : saved = ["Empty".toList]
    · rw [if_pos hempty] at heq
      rw [← heq] at hstays
      exact absurd hstays.2 (by decide)
    · rw [if_neg hempty] at heq
      rw [heq, domainsEq_refl] at hstays
      cases hstays.1
  · rintro (h | h) ⟨hne, hreq⟩
    · rw [h] at hne
      cases hne
    · rw [h] at hreq
      cases hreq

/-- What the user has changed since, from `a` to `t`, is so after the restore. -/
structure EditsKept (s a t : Service) : Prop where
  web : t.web ≠ a.web → (restoreService s t).web = t.web
  secure : t.secure ≠ a.secure → (restoreService s t).secure = t.secure
  socks : t.socks ≠ a.socks → (restoreService s t).socks = t.socks
  bypass : t.bypassDomains ≠ a.bypassDomains → (restoreService s t).bypassDomains = t.bypassDomains

/-- **Restoring undoes what was applied and nothing else**, exactly for these settings and edits. -/
theorem restore_exact_iff (s : Service) (httpPort : Nat) (split : List Text) :
    ((restoreService s (applied s httpPort split)).Same s ↔ s.Restorable) ∧
    ∀ t, EditsKept s (applied s httpPort split) t ↔
      (t.web ≠ (applied s httpPort split).web → WebStays s.web t.web) ∧
      (t.secure ≠ (applied s httpPort split).secure → WebStays s.secure t.secure) ∧
      (t.socks ≠ (applied s httpPort split).socks → SocksStays s.socks t.socks) ∧
      (t.bypassDomains ≠ (applied s httpPort split).bypassDomains →
        BypassStays s.bypassDomains t.bypassDomains) := by
  refine ⟨undone_iff s httpPort split, fun t => ?_⟩
  rw [← webStays_iff, ← webStays_iff, ← socksStays_iff, ← bypassStays_iff]
  exact ⟨fun h => ⟨h.web, h.secure, h.socks, h.bypass⟩, fun h => ⟨h.1, h.2.1, h.2.2.1, h.2.2.2⟩⟩

/-- A service that comes back as it was; and edits of its web proxy, its SOCKS proxy and its list
that are kept, the SOCKS proxy on a loopback address. -/
theorem restore_exact_iff_kept : let saved : ProxySlot := ⟨true, "proxy.example".toList, 8080⟩
    let s : Service := ⟨saved, saved, saved, ["corp.example".toList]⟩
    let a := applied s 17890 []
    let t : Service := { a with
      web := ⟨true, "other.example".toList, 3128⟩
      socks := ⟨true, "127.0.0.1".toList, 1080⟩
      bypassDomains := ["intranet.example".toList] }
    restoreService s a = s ∧ restoreService s t = { t with secure := saved } ∧
      EditsKept s a t := by
  intro saved s a t
  refine ⟨by decide +kernel, by decide +kernel, ((restore_exact_iff s 17890 []).2 t).mpr
    ⟨fun _ => ?_, fun h => absurd rfl h, fun _ => ?_, fun _ => ?_⟩⟩
  · exact (webStays_iff _ _).mp (by decide +kernel)
  · exact (socksStays_iff _ _).mp (by decide +kernel)
  · exact (bypassStays_iff _ _).mp (by decide +kernel)

/-- **A domain that the user adds to the list while connected is lost.** -/
theorem added_domain_is_lost : let off : ProxySlot := ⟨false, [], 0⟩
    let s : Service := ⟨off, off, off, []⟩
    let a := applied s 17890 []
    let t := { a with bypassDomains := a.bypassDomains ++ ["corp.example".toList] }
    (restoreService s t).bypassDomains = [] := by
  decide +kernel

end BibaVpn.Apps.MacProxy
