import Storefront.Http.Client
import Storefront.Proofs.Except

/-! # What a client is made from -/

namespace Storefront

open Http

namespace HttpClient

/-- Every part of the settings of a client is checked by itself. -/
theorem ofSettings_eq_ok_iff {o : OutgoingSettings} {c : HttpClient} :
    ofSettings o = .ok c ↔
      extraHeaders standardHeaders o.extraHeaders = .ok c.headers ∧
        Timeout.ofSeconds? o.requestTimeout = some c.timeout ∧ checkProxies o.proxies = .ok () := by
  constructor
  · intro h
    obtain ⟨headers, hheaders, h⟩ := exists_of_bind_eq_ok h
    cases htimeout : Timeout.ofSeconds? o.requestTimeout with
    | none => simp [htimeout] at h
    | some timeout =>
        simp only [htimeout] at h
        obtain ⟨⟨⟩, hproxies, h⟩ := exists_of_bind_eq_ok h
        obtain rfl := Except.ok.inj h
        exact ⟨hheaders, rfl, hproxies⟩
  · rintro ⟨hheaders, htimeout, hproxies⟩
    simp only [ofSettings, hheaders, htimeout, hproxies, bind, Except.bind]

/-- A timeout that cannot be counted is named in the refusal. -/
theorem ofSettings_of_timeout_refused {o : OutgoingSettings} {headers : Headers}
    (hheaders : extraHeaders standardHeaders o.extraHeaders = .ok headers)
    (htimeout : Timeout.ofSeconds? o.requestTimeout = none) :
    ofSettings o = .error (.timeout o.requestTimeout) := by
  simp only [ofSettings, hheaders, htimeout, bind, Except.bind]

end HttpClient

end Storefront
