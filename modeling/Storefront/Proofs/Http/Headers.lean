import Mathlib.Data.List.Perm.Basic
import Storefront.Proofs.Http.Client

/-! # Extra headers in any order

Settings hold extra headers by name, in no order. Headers with different names can be set in any
order; of headers with one name the last one counts. So a client does not depend on the order just
if no two of its settings' names, which may differ in the case of their letters, stand for one
header with two values. -/

namespace Storefront

open Http

namespace Http.Headers

variable {name other value text : String} {entries : List (String × String)} {h : Headers}

/-! ## Setting headers -/

theorem insertEntry_self (name value text : String) (entries : List (String × String)) :
    insertEntry name value ((name, text) :: entries) = (name, value) :: entries := by
  rw [insertEntry, if_pos (beq_self_eq_true name)]

theorem insertEntry_of_lt (h : name < other) (value text : String)
    (entries : List (String × String)) :
    insertEntry name value ((other, text) :: entries) =
      (name, value) :: (other, text) :: entries := by
  have hne : ¬(name == other) = true := fun heq =>
    String.lt_irrefl other (beq_iff_eq.mp heq ▸ h)
  rw [insertEntry, if_neg hne, if_pos h]

theorem insertEntry_of_gt (h : other < name) (value text : String)
    (entries : List (String × String)) :
    insertEntry name value ((other, text) :: entries) =
      (other, text) :: insertEntry name value entries := by
  have hne : ¬(name == other) = true := fun heq =>
    String.lt_irrefl other (beq_iff_eq.mp heq ▸ h)
  rw [insertEntry, if_neg hne, if_neg (String.lt_asymm h)]

theorem lt_or_eq_or_gt (name other : String) : name < other ∨ name = other ∨ other < name := by
  rcases Decidable.em (name < other) with hlt | hge
  · exact .inl hlt
  · rcases Decidable.em (other < name) with hgt | hle
    · exact .inr (.inr hgt)
    · exact .inr (.inl (String.le_antisymm (String.not_lt.mp hle) (String.not_lt.mp hge)))

theorem insertEntry_comm_of_lt (h : name < other) (value text : String)
    (entries : List (String × String)) :
    insertEntry name value (insertEntry other text entries) =
      insertEntry other text (insertEntry name value entries) := by
  induction entries with
  | nil =>
      rw [insertEntry, insertEntry, insertEntry_of_lt h, insertEntry_of_gt h]
      rfl
  | cons entry entries ih =>
      obtain ⟨next, old⟩ := entry
      rcases lt_or_eq_or_gt other next with hlt | rfl | hgt
      · rw [insertEntry_of_lt hlt, insertEntry_of_lt h, insertEntry_of_lt (String.lt_trans h hlt),
          insertEntry_of_gt h, insertEntry_of_lt hlt]
      · rw [insertEntry_self, insertEntry_of_lt h, insertEntry_of_lt h, insertEntry_of_gt h,
          insertEntry_self]
      · rw [insertEntry_of_gt hgt]
        rcases lt_or_eq_or_gt name next with hlt | rfl | hgt'
        · rw [insertEntry_of_lt hlt, insertEntry_of_lt hlt, insertEntry_of_gt h,
            insertEntry_of_gt hgt]
        · rw [insertEntry_self, insertEntry_self, insertEntry_of_gt hgt]
        · rw [insertEntry_of_gt hgt', insertEntry_of_gt hgt', insertEntry_of_gt hgt, ih]

theorem set_comm (hne : name ≠ other) (h : Headers) (value text : String) :
    (h.set name value).set other text = (h.set other text).set name value := by
  rcases lt_or_eq_or_gt name other with hlt | heq | hgt
  · exact congrArg Headers.mk (insertEntry_comm_of_lt hlt value text h.entries).symm
  · exact absurd heq hne
  · exact congrArg Headers.mk (insertEntry_comm_of_lt hgt text value h.entries)

theorem get?_set (h : Headers) (name value : String) :
    (h.set name value).get? name = some value := by
  obtain ⟨entries⟩ := h
  rw [set, get?]
  induction entries with
  | nil => rw [insertEntry, List.lookup_cons_self]
  | cons entry entries ih =>
      obtain ⟨next, old⟩ := entry
      rcases lt_or_eq_or_gt name next with hlt | rfl | hgt
      · rw [insertEntry_of_lt hlt, List.lookup_cons_self]
      · rw [insertEntry_self, List.lookup_cons_self]
      · have hne : (name == next) = false := beq_eq_false_iff_ne.mpr fun heq =>
          String.lt_irrefl next (heq ▸ hgt)
        rw [insertEntry_of_gt hgt, List.lookup_cons, hne]
        exact ih

end Http.Headers

namespace HttpClient

variable {p q : String × String} {entries others : List (String × String)} {h : Headers}
  {o : OutgoingSettings}

/-! ## The headers of a client -/

/-- Whether a name and a value can be sent as a header. -/
def isHeader (p : String × String) : Bool :=
  (headerName? p.1).isSome && isHeaderValue p.2.toList

/-- Sets a header, its name in the form in which it is kept. -/
def put (h : Headers) (p : String × String) : Headers :=
  (headerName? p.1).elim h fun name => h.set name p.2

/-- Entries that are all headers are set one after the other, and no others are. -/
theorem extraHeaders_eq_ok_iff {h' : Headers} :
    extraHeaders h entries = .ok h' ↔
      (∀ p ∈ entries, isHeader p = true) ∧ entries.foldl put h = h' := by
  induction entries generalizing h with
  | nil => simp [extraHeaders]
  | cons p entries ih =>
      obtain ⟨name, value⟩ := p
      rw [extraHeaders, List.forall_mem_cons, List.foldl_cons, put, isHeader]
      cases hname : headerName? name with
      | none => simp
      | some kept =>
          dsimp only
          split
          · rename_i hvalue
            rw [ih, hvalue]
            simp
          · rename_i hvalue
            simp [hvalue]

/-- Two entries that stand for one header, with different values. -/
def Clash (p q : String × String) : Prop :=
  headerName? p.1 = headerName? q.1 ∧ headerName? p.1 ≠ none ∧ p.2 ≠ q.2

instance (p q : String × String) : Decidable (Clash p q) :=
  inferInstanceAs (Decidable (_ ∧ _ ∧ _))

theorem put_comm (hclash : ¬Clash p q) (h : Headers) : put (put h p) q = put (put h q) p := by
  unfold put
  cases hp : headerName? p.1 with
  | none => rfl
  | some name =>
      cases hq : headerName? q.1 with
      | none => rfl
      | some other =>
          by_cases heq : name = other
          · subst heq
            have hvalue : p.2 = q.2 := by
              by_contra hne
              exact hclash ⟨hp.trans hq.symm, by simp [hp], hne⟩
            simp only [Option.elim_some, hvalue]
          · exact Headers.set_comm heq h p.2 q.2

theorem foldl_put_perm (hperm : entries.Perm others)
    (hclash : ∀ p ∈ entries, ∀ q ∈ entries, ¬Clash p q) (h : Headers) :
    entries.foldl put h = others.foldl put h :=
  hperm.foldl_eq' (fun p hp q hq h => put_comm (hclash p hp q hq) h) h

/-- The entry that comes last is sent. -/
theorem get?_foldl_put_last {name : String} (hname : headerName? p.1 = some name)
    (entries : List (String × String)) (h : Headers) :
    ((entries ++ [p]).foldl put h).get? name = some p.2 := by
  rw [List.foldl_append, List.foldl_cons, List.foldl_nil, put, hname]
  exact Headers.get?_set _ _ _

/-! ## Clients from any order -/

theorem exists_extraHeaders_iff :
    (∃ h', extraHeaders h entries = .ok h') ↔ ∀ p ∈ entries, isHeader p = true := by
  simp only [extraHeaders_eq_ok_iff, exists_and_left, exists_eq', and_true]

theorem exists_ofSettings_iff :
    (∃ c, ofSettings o = .ok c) ↔
      (∀ p ∈ o.extraHeaders, isHeader p = true) ∧
        (∃ t, Timeout.ofSeconds? o.requestTimeout = some t) ∧ checkProxies o.proxies = .ok () := by
  simp only [ofSettings_eq_ok_iff]
  constructor
  · rintro ⟨c, hheaders, htimeout, hproxies⟩
    exact ⟨exists_extraHeaders_iff.mp ⟨_, hheaders⟩, ⟨_, htimeout⟩, hproxies⟩
  · rintro ⟨hentries, ⟨t, htimeout⟩, hproxies⟩
    obtain ⟨headers, hheaders⟩ := exists_extraHeaders_iff.mpr hentries
    exact ⟨⟨headers, t⟩, hheaders, htimeout, hproxies⟩

/-- Where one order sends an entry and another one its like with another value, the clients
differ. -/
theorem not_clash_of_forall_perm {c : HttpClient}
    (hall : ∀ entries, entries.Perm o.extraHeaders →
      ofSettings { o with extraHeaders := entries } = .ok c)
    (hp : p ∈ o.extraHeaders) (hq : q ∈ o.extraHeaders) : ¬Clash p q := by
  rintro ⟨hsame, hsome, hne⟩
  obtain ⟨name, hname⟩ := Option.ne_none_iff_exists'.mp hsome
  have hlast : ∀ r ∈ o.extraHeaders, headerName? r.1 = some name →
      c.headers.get? name = some r.2 := by
    intro r hr hkept
    have hperm : (o.extraHeaders.erase r ++ [r]).Perm o.extraHeaders :=
      List.perm_append_comm.trans (List.perm_cons_erase hr).symm
    have hheaders := (ofSettings_eq_ok_iff.mp (hall _ hperm)).1
    rw [← (extraHeaders_eq_ok_iff.mp hheaders).2]
    exact get?_foldl_put_last hkept _ _
  have hvalues := (hlast p hp hname).symm.trans (hlast q hq (hsame ▸ hname))
  exact hne (Option.some.inj hvalues)

/-- Whether settings are fit for a client does not depend on the order of their extra headers. The
client is the same for every order just if no two of them stand for one header with different
values. -/
theorem same_client_in_any_order_iff (o : OutgoingSettings) :
    (∀ entries, entries.Perm o.extraHeaders →
      ((∃ c, ofSettings { o with extraHeaders := entries } = .ok c) ↔
        ∃ c, ofSettings o = .ok c)) ∧
    ∀ c, ofSettings o = .ok c →
      ((∀ entries, entries.Perm o.extraHeaders →
          ofSettings { o with extraHeaders := entries } = .ok c) ↔
        ∀ p ∈ o.extraHeaders, ∀ q ∈ o.extraHeaders, ¬Clash p q) := by
  refine ⟨fun entries hperm => ?_, fun c hc => ⟨fun hall p hp q hq => ?_, fun hclash => ?_⟩⟩
  · simp only [exists_ofSettings_iff, hperm.mem_iff]
  · exact not_clash_of_forall_perm hall hp hq
  · intro entries hperm
    obtain ⟨hheaders, htimeout, hproxies⟩ := ofSettings_eq_ok_iff.mp hc
    obtain ⟨hentries, hfold⟩ := extraHeaders_eq_ok_iff.mp hheaders
    refine ofSettings_eq_ok_iff.mpr ⟨?_, htimeout, hproxies⟩
    refine extraHeaders_eq_ok_iff.mpr ⟨fun p hp => hentries p (hperm.mem_iff.mp hp), ?_⟩
    rw [← hfold]
    exact (foldl_put_perm hperm.symm hclash _).symm

/-- A header and one whose name is longer, the other way round. -/
theorem same_client_in_any_order_iff_two :
    let o : OutgoingSettings := { extraHeaders := [("X-A", "1"), ("x-ab", "2")] }
    ∃ c, ofSettings o = .ok c ∧ [("x-ab", "2"), ("X-A", "1")].Perm o.extraHeaders ∧
      ofSettings { o with extraHeaders := [("x-ab", "2"), ("X-A", "1")] } = .ok c := by
  intro o
  have hperm : [("x-ab", "2"), ("X-A", "1")].Perm o.extraHeaders := List.Perm.swap _ _ _
  have hbuilt : ∃ c, ofSettings o = .ok c :=
    exists_ofSettings_iff.mpr ⟨by decide +kernel, ⟨⟨5000000000, by decide⟩, by decide +kernel⟩, rfl⟩
  obtain ⟨c, hc⟩ := hbuilt
  have hclash : ∀ p ∈ [("X-A", "1"), ("x-ab", "2")], ∀ q ∈ [("X-A", "1"), ("x-ab", "2")],
      ¬Clash p q := by decide +kernel
  exact ⟨c, hc, hperm, ((same_client_in_any_order_iff o).2 c hc).mpr hclash _ hperm⟩

/-- Two names that differ in case alone: the value that is sent is that of the one that happens to
come last. -/
theorem clients_differ_by_order :
    ∃ c d, ("X-A" : String) ≠ "x-a" ∧
      ofSettings { extraHeaders := [("X-A", "1"), ("x-a", "2")] } = .ok c ∧
      ofSettings { extraHeaders := [("x-a", "2"), ("X-A", "1")] } = .ok d ∧
      c.headers.get? "x-a" = some "2" ∧ d.headers.get? "x-a" = some "1" := by
  have htimeout : Timeout.ofSeconds? (Binary64.ofNat 5) = some ⟨5000000000, by decide⟩ := by
    decide +kernel
  have hbuilt : ∀ entries, (∀ p ∈ entries, isHeader p = true) →
      ofSettings { extraHeaders := entries } =
        .ok ⟨entries.foldl put standardHeaders, ⟨5000000000, by decide⟩⟩ := fun entries hentries =>
    ofSettings_eq_ok_iff.mpr ⟨extraHeaders_eq_ok_iff.mpr ⟨hentries, rfl⟩, htimeout, rfl⟩
  exact ⟨_, _, by decide, hbuilt _ (by decide +kernel), hbuilt _ (by decide +kernel),
    by decide +kernel, by decide +kernel⟩

end HttpClient

end Storefront
