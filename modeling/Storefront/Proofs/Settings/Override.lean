import Storefront.Proofs.Http.Headers
import Storefront.Proofs.Http.Timeout
import Storefront.Settings.Load

/-! # What the environment does to a client

A variable can set the time for which a reply is waited. What it is set to is positive and finite,
but that is not all that is asked of a timeout: some settings that were fit for a client are not
any more. -/

namespace Storefront

namespace Settings

open Http

variable {env : Environment} {s : Settings} {x : Binary64}

/-- The request timeout that an environment sets. -/
def requestTimeout? (env : Environment) : Option Binary64 :=
  (env "NEXUS_REQUEST_TIMEOUT").bind waitable?

theorem waitable_of_requestTimeout? (h : requestTimeout? env = some x) :
    x.isFinite = true ∧ x.isPositive = true := by
  obtain ⟨text, -, hwaitable⟩ := Option.bind_eq_some_iff.mp h
  obtain ⟨-, hx⟩ := Option.filter_eq_some_iff.mp hwaitable
  exact (Bool.and_eq_true _ _).mp hx

/-- The request timeout is all that an environment changes in how requests are made. -/
theorem outgoing_override (env : Environment) (s : Settings) :
    (override env s).outgoing =
      { s.outgoing with requestTimeout := (requestTimeout? env).getD s.outgoing.requestTimeout } :=
  rfl

theorem exists_ofSeconds?_iff_spans (h : requestTimeout? env = some x) :
    (∃ t, Timeout.ofSeconds? x = some t) ↔ Timeout.Spans x := by
  obtain ⟨hfinite, hpositive⟩ := waitable_of_requestTimeout? h
  have hsign : x.isNegative = false := by
    rw [Binary64.isPositive, Bool.and_eq_true, Bool.and_eq_true] at hpositive
    exact (Bool.not_eq_true' _).mp hpositive.1.2
  rw [Timeout.exists_ofSeconds?_iff, and_iff_right hfinite, and_iff_right hsign]

/-- A timeout that an environment sets is one of a client just if it comes to more than half a
nanosecond and to less than `2 ^ 64` seconds. Where an environment sets none, or such a one, a
client can still be made if it could be made before, and where it sets another one, none can. -/
theorem override_keeps_client_iff (env : Environment) (s : Settings) :
    (∀ x, requestTimeout? env = some x →
      (override env s).outgoing.requestTimeout = x ∧
        ((∃ t, Timeout.ofSeconds? x = some t) ↔ Timeout.Spans x)) ∧
    (requestTimeout? env = none → (override env s).outgoing = s.outgoing) ∧
    ((∃ c, HttpClient.ofSettings s.outgoing = .ok c) →
      ((∃ c, HttpClient.ofSettings (override env s).outgoing = .ok c) ↔
        ∀ x, requestTimeout? env = some x → Timeout.Spans x)) := by
  refine ⟨fun x hx => ⟨?_, exists_ofSeconds?_iff_spans hx⟩, fun hnone => ?_, fun hbuilt => ?_⟩
  · rw [outgoing_override, hx]
    rfl
  · rw [outgoing_override, hnone]
    rfl
  · rw [HttpClient.exists_ofSettings_iff] at hbuilt
    obtain ⟨hentries, htimeout, hproxies⟩ := hbuilt
    rw [HttpClient.exists_ofSettings_iff, outgoing_override, and_iff_right hentries,
      and_iff_left hproxies]
    cases hset : requestTimeout? env with
    | none => exact iff_of_true htimeout fun x hx => nomatch hx
    | some x => exact (exists_ofSeconds?_iff_spans hset).trans (by simp)

/-- Two and a half seconds are waited for. -/
theorem override_keeps_client_iff_half :
    let env : Environment := fun name => if name = "NEXUS_REQUEST_TIMEOUT" then some "2.5" else none
    ∃ x, requestTimeout? env = some x ∧ Timeout.Spans x ∧
      (∃ c, HttpClient.ofSettings ({} : Settings).outgoing = .ok c) ∧
      ∃ c, HttpClient.ofSettings (override env {}).outgoing = .ok c := by
  intro env
  have hx : requestTimeout? env = some ⟨0x4004000000000000⟩ := by decide +kernel
  have hspans : Timeout.Spans ⟨0x4004000000000000⟩ := by decide +kernel
  have hbuilt : ∃ c, HttpClient.ofSettings ({} : Settings).outgoing = .ok c :=
    HttpClient.exists_ofSettings_iff.mpr
      ⟨by decide, ⟨⟨5000000000, by decide⟩, by decide +kernel⟩, rfl⟩
  refine ⟨_, hx, hspans, hbuilt, ((override_keeps_client_iff env {}).2.2 hbuilt).mpr ?_⟩
  intro x hx'
  rwa [← Option.some.inj (hx.symm.trans hx')]

/-- A tenth of a nanosecond is set and refused, and so is a time too long to be counted. -/
theorem override_refused_tiny_and_huge :
    (∃ c, HttpClient.ofSettings ({} : Settings).outgoing = .ok c) ∧
    ∀ text ∈ ["1e-10", "1e20"],
      let env : Environment := fun name =>
        if name = "NEXUS_REQUEST_TIMEOUT" then some text else none
      ∃ x, requestTimeout? env = some x ∧ (override env {}).outgoing.requestTimeout = x ∧
        HttpClient.ofSettings (override env {}).outgoing = .error (.timeout x) := by
  have hrefused : ∀ (env : Environment) (x : Binary64), requestTimeout? env = some x →
      Timeout.ofSeconds? x = none →
      ∃ x, requestTimeout? env = some x ∧ (override env {}).outgoing.requestTimeout = x ∧
        HttpClient.ofSettings (override env {}).outgoing = .error (.timeout x) := by
    intro env x hx hnone
    have hset : (override env {}).outgoing.requestTimeout = x := by
      rw [outgoing_override, hx]
      rfl
    refine ⟨x, hx, hset, ?_⟩
    rw [← hset]
    exact HttpClient.ofSettings_of_timeout_refused rfl (hset.symm ▸ hnone)
  refine ⟨HttpClient.exists_ofSettings_iff.mpr
    ⟨by decide, ⟨⟨5000000000, by decide⟩, by decide +kernel⟩, rfl⟩, ?_⟩
  intro text htext env
  rcases List.mem_pair.mp htext with rfl | rfl
  · exact hrefused env ⟨0x3ddb7cdfd9d7bdbb⟩ (by decide +kernel) (by decide +kernel)
  · exact hrefused env ⟨0x4415af1d78b58c40⟩ (by decide +kernel) (by decide +kernel)

end Settings

end Storefront
