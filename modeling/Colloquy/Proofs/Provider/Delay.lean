import Colloquy.Proofs.Decimal.Spelled
import Colloquy.Proofs.Provider.Classification
import Colloquy.Proofs.Retry.Course

/-!
# The delays that backends ask for

A response asks for a retry after some time in a header, or in a detail of its payload
(`AsksAfter`).  The delay that is found is never negative, and it is finite just when
its text is not too large to be a float.  Retries without a limit of time sleep for the
delays of their policy and for delays that were found in this way, whether those
are finite or not.
-/

namespace Colloquy

/-- A response asks in a text for a retry after some time: in a header, or in a detail of its
payload, where the text holds digits and points only and a letter for the seconds follows. -/
inductive AsksAfter (response : Wire.Response) (payload : Value) : Text → Prop
  | header {text : Text} (hheader : response.header? "retry-after" = some (.text text)) :
      AsksAfter response payload text
  | detail {details : List Value} {fields : Fields} {kind delay text : Text}
      (hdetails : (payload.field "error").field "details" = .list details)
      (hmem : .object fields ∈ details)
      (hkind : (Value.object fields).field "@type" = .text kind)
      (hretry : ("RetryInfo" : Text) <:+: kind)
      (hdelay : (Value.object fields).field "retryDelay" = .text delay)
      (hseconds : delay = text ++ "s" ∨ delay = text ++ "s\n")
      (hdigits : Decimal.IsDigits text) : AsksAfter response payload text

/-- A delay that a response asks for: it is not negative, and it is finite unless its text is
too large for that. -/
structure Asked (response : Wire.Response) (payload : Value) (text : Text) (seconds : Float) :
    Prop where
  asks : AsksAfter response payload text
  read : Decimal.float? text = some seconds
  nonneg : 0.0 ≤ seconds
  finite_iff : seconds.isFinite = true ↔ ¬Decimal.TooLarge text

/-! ## Details -/

/-- Whole digits of any script. -/
theorem isDigits_of_all {part : Text} (h : (part != [] && part.all Text.isDecimal) = true) :
    Decimal.IsDigits part := by
  rw [Bool.and_eq_true, List.all_eq_true] at h
  exact fun c hc => .inl (h.2 c hc)

/-- The seconds of a duration are what its digits are read as. -/
theorem durationSeconds?_eq_some {delay : Text} {seconds : Float}
    (h : durationSeconds? delay = some seconds) : ∃ text,
      (delay = text ++ "s" ∨ delay = text ++ "s\n") ∧ Decimal.IsDigits text ∧
        Decimal.float? text = some seconds := by
  unfold durationSeconds? at h
  dsimp only at h
  generalize hbody : (if delay.getLast? = some 0x0a then delay.dropLast else delay : Text) = body
    at h
  split at h
  case h_2 => cases h
  case h_1 hlast =>
    have hletter := List.dropLast_append_getLast? _ hlast
    generalize body.dropLast = number at h hletter
    split_ifs at h with hfits
    refine ⟨number, ?_, ?_, h⟩
    · split_ifs at hbody with hfeed
      · right
        rw [← List.dropLast_append_getLast? _ hfeed, hbody, ← hletter]
        exact List.append_assoc _ _ _
      · left
        rw [hbody]
        exact hletter.symm
    · split at hfits
      case h_1 => exact isDigits_of_all hfits
      case h_2 whole fraction hpoint =>
        rw [Bool.and_eq_true] at hfits
        rw [Text.splitFirst_eq_some hpoint]
        intro c hc
        rcases List.mem_append.1 hc with hfront | hback
        · rcases List.mem_append.1 hfront with hdigit | hsign
          · exact isDigits_of_all hfits.1 c hdigit
          · exact .inr (List.mem_singleton.1 hsign)
        · exact isDigits_of_all hfits.2 c hback

/-- The delay that a payload asks for is the one of a detail. -/
theorem payloadDelay?_asks {response : Wire.Response} {payload : Value} {seconds : Float}
    (h : payloadDelay? payload = some seconds) : ∃ text, AsksAfter response payload text ∧
      Decimal.IsDigits text ∧ Decimal.float? text = some seconds := by
  unfold payloadDelay? at h
  split at h
  case h_2 => cases h
  case h_1 details hdetails =>
    obtain ⟨detail, hmem, hdetail⟩ := List.exists_of_findSome?_eq_some h
    unfold detailDelay? at hdetail
    split at hdetail
    case h_2 => cases hdetail
    case h_1 fields =>
      split at hdetail
      case h_2 => cases hdetail
      case h_1 kind delay hkind hdelay =>
        split_ifs at hdetail with hretry
        obtain ⟨text, hseconds, hdigits, hread⟩ := durationSeconds?_eq_some hdetail
        exact ⟨text, .detail hdetails hmem hkind (Text.includes_iff.1 hretry) hdelay hseconds
          hdigits, hdigits, hread⟩

/-! ## Responses -/

theorem headerDelay?_asks {response : Wire.Response} {payload : Value} {seconds : Float}
    (h : headerDelay? response = some seconds) : ∃ text, AsksAfter response payload text ∧
      Decimal.float? text = some seconds ∧ 0.0 ≤ seconds := by
  unfold headerDelay? at h
  split at h
  case h_2 => cases h
  case h_1 text hheader =>
    split_ifs at h
    split at h
    case h_2 => cases h
    case h_1 x hread =>
      split_ifs at h with hnonneg
      cases h
      exact ⟨text, .header hheader, hread, hnonneg⟩

/-- What is found in a response is a delay that the response asks for. -/
theorem retryAfter?_asked {response : Wire.Response} {payload : Value} {seconds : Float}
    (h : retryAfter? response payload = some seconds) :
    ∃ text, Asked response payload text seconds := by
  have hask : ∃ text, AsksAfter response payload text ∧ Decimal.float? text = some seconds ∧
      0.0 ≤ seconds := by
    rw [retryAfter?, Option.orElse_eq_orElse, Option.orElse_eq_or, Option.or_eq_some_iff] at h
    rcases h with hheader | ⟨-, hpayload⟩
    · exact headerDelay?_asks hheader
    · obtain ⟨text, hasks, hdigits, hread⟩ := payloadDelay?_asks hpayload
      exact ⟨text, hasks, hread, Decimal.zero_le_float? hdigits hread⟩
  obtain ⟨text, hasks, hread, hnonneg⟩ := hask
  exact ⟨text, hasks, hread, hnonneg, Decimal.isFinite_float?_iff hread hnonneg⟩

/-! ## Retries -/

/-- Surroundings whose failures ask for a delay only when they are errors of responses. -/
structure Surroundings.OfResponses {β : Type} (env : Surroundings Number β) : Prop where
  delay_eq : env.delay? = retryDelay?
  failures : ∀ i e, env.MayRetry (env.attempt i).result e → retryDelay? e = .ok none ∨
    ∃ response provider error, errorOfResponse response provider = .ok error ∧ e = .own error

/-- The delay that an error of the library asks for is the number in it, as a float. -/
theorem retryDelay?_own {e : Error} {asked : Number}
    (h : retryDelay? (.own e) = .ok (some asked)) :
    ∃ n seconds, Number.ofValue? e.retryAfter = some n ∧ n.toFloat = .ok seconds ∧
      asked = .float seconds := by
  unfold retryDelay? at h
  dsimp only at h
  split_ifs at h
  · split at h
    case h_2 => cases h
    case h_1 n hn =>
      split_ifs at h
      · obtain ⟨seconds, hseconds, h⟩ := bind_eq_ok_iff.1 h
        cases h
        exact ⟨n, seconds, hn, hseconds, rfl⟩
      · cases h
  · cases h

theorem Number.ofValue?_ofSeconds? (delay : Option Float) :
    Number.ofValue? (.ofSeconds? delay) = delay.map .float := by
  cases delay <;> rfl

/-- The error of a response asks for what was found in the response. -/
theorem retryDelay?_errorOfResponse {response : Wire.Response} {provider : Text} {e : Error}
    {asked : Number} (he : errorOfResponse response provider = .ok e)
    (h : retryDelay? (.own e) = .ok (some asked)) : ∃ payload seconds,
      response.payload = .ok payload ∧ retryAfter? response payload = some seconds ∧
        asked = .float seconds := by
  obtain ⟨payload, hpayload, rfl⟩ := errorOfResponse_eq_ok_iff.1 he
  obtain ⟨n, seconds, hn, hseconds, rfl⟩ := retryDelay?_own h
  rw [Number.ofValue?_ofSeconds?] at hn
  obtain ⟨found, hfound, rfl⟩ := Option.map_eq_some_iff.1 hn
  cases hseconds
  exact ⟨payload, seconds, hpayload, hfound, rfl⟩

/-- Without a limit of time, a pause is the one by the policy, or the delay that the failure asks
for. -/
theorem RetryRun.Pass.Taken.sleep_eq {α β : Type} [Quantity α] {policy : RetryPolicy α}
    {env : Surroundings α β} {p : RetryRun.Pass α} (h : p.Taken policy env)
    (hlimit : policy.maxElapsed = none) {pause : α} (hsleep : p.sleep = some pause) :
    (∃ retry draws drawn, policy.backoff retry (env.random draws) = .ok (pause, drawn)) ∨
      env.delay? p.failure = .ok (some pause) := by
  obtain ⟨own, drawn, rest, hasked, hbackoff, hlimited, hslept⟩ := h.exists_pause
  have hrest : pause = rest := by
    rcases hslept with ⟨-, hrest, -⟩ | ⟨-, hnone, -⟩
    · exact Option.some.inj (hsleep.symm.trans hrest)
    · rw [hnone] at hsleep
      cases hsleep
  subst hrest
  cases hlimited with
  | within hlimit' =>
    rw [hlimit] at hlimit'
    cases hlimit'
  | unlimited =>
    cases hfound : p.asked with
    | none => exact .inl ⟨_, _, drawn, hbackoff⟩
    | some seconds =>
      rw [longest, Quantity.greatest]
      split_ifs
      · exact .inr (by rw [hasked, hfound])
      · exact .inl ⟨_, _, drawn, hbackoff⟩

/-- The pauses of retries are those of the passes of a course. -/
theorem RetryRun.exists_pass_of_mem_sleeps {α β : Type} [Quantity α] {policy : RetryPolicy α}
    {env : Surroundings α β} {pause : α} (h : pause ∈ (retry policy env).sleeps) :
    ∃ p : RetryRun.Pass α, p.Taken policy env ∧ p.sleep = some pause := by
  cases hattempts : policy.maxAttempts with
  | uncountable typeName =>
    rw [retry, hattempts] at h
    cases h
  | count n positive =>
    obtain ⟨passes, last, hcourse, hlength, hend⟩ := exists_course_retry env hattempts
    have hsleeps : (retry policy env).sleeps = passes.filterMap Pass.sleep := by
      rcases hend with ⟨e, hover⟩ | ⟨-, hretry⟩
      · rw [hcourse.retry_of_overflows hattempts hlength hover]
      · rw [hretry]
    rw [hsleeps] at h
    obtain ⟨p, hp, hsleep⟩ := List.mem_filterMap.1 h
    exact ⟨p, hcourse.taken p hp, hsleep⟩

/-- What is found in a response is a delay that it asks for, and without a limit of time retries
sleep only for the delays of their policy and for those that were found. -/
theorem retryAfter?_asked_and_slept {β : Type} (policy : RetryPolicy Number)
    (env : Surroundings Number β) :
    (∀ response payload seconds, retryAfter? response payload = some seconds →
      ∃ text, Asked response payload text seconds) ∧
    (policy.maxElapsed = none → env.OfResponses → ∀ pause ∈ (retry policy env).sleeps,
      (∃ retry draws drawn, policy.backoff retry (env.random draws) = .ok (pause, drawn)) ∨
        ∃ response payload text seconds, response.payload = .ok payload ∧
          Asked response payload text seconds ∧ pause = .float seconds) := by
  refine ⟨fun _ _ _ => retryAfter?_asked, ?_⟩
  intro hlimit henv pause hpause
  obtain ⟨p, htaken, hsleep⟩ := RetryRun.exists_pass_of_mem_sleeps hpause
  refine (htaken.sleep_eq hlimit hsleep).imp_right fun hasked => ?_
  rw [henv.delay_eq] at hasked
  rcases henv.failures _ _ htaken.comesBack.mayRetry with hnone | ⟨response, provider, e, he, heq⟩
  · rw [hnone] at hasked
    cases hasked
  · rw [heq] at hasked
    obtain ⟨payload, seconds, hpayload, hfound, hseconds⟩ :=
      retryDelay?_errorOfResponse he hasked
    obtain ⟨text, htext⟩ := retryAfter?_asked hfound
    exact ⟨response, payload, text, seconds, hpayload, htext, hseconds⟩

/-- A response that asks in its header for a retry after some time. -/
def busyResponse (delay : Text) : Wire.Response :=
  { status := 429, body := [], headers := [("retry-after", .text delay)] }

/-- Attempts that all fail with one error. -/
def alwaysFailing (e : Error) : Surroundings Number Unit where
  attempt _ := ⟨.error (.own e), .float 0.0⟩
  failure? _ := none
  accepts := shouldRetry
  delay? := retryDelay?
  random _ := .float 0.0

theorem alwaysFailing_ofResponses {response : Wire.Response} {provider : Text} {e : Error}
    (h : errorOfResponse response provider = .ok e) : (alwaysFailing e).OfResponses where
  delay_eq := rfl
  failures := by
    rintro i failure ⟨hfails, -⟩
    cases hfails with
    | raised => exact .inr ⟨response, provider, e, h, rfl⟩

/-- Three attempts with pauses that double, and no limit of time. -/
def patientPolicy : RetryPolicy Number :=
  { maxAttempts := .count 3 (by decide), initialDelay := .float 0.5, multiplier := .int 2,
    maxDelay := .float 5.0, jitter := false, maxElapsed := none }

/-- A response that asks for a retry after eight seconds. -/
theorem retryAfter?_asked_and_slept_eight :
    (∃ text, Asked (busyResponse "8") .null text 8.0) ∧
    ∃ e, errorOfResponse (busyResponse "8") "openai" = .ok e ∧
      (retry patientPolicy (alwaysFailing e)).sleeps.length = 2 ∧
      ∀ pause ∈ (retry patientPolicy (alwaysFailing e)).sleeps,
        (∃ retry draws drawn, patientPolicy.backoff retry ((alwaysFailing e).random draws)
          = .ok (pause, drawn)) ∨
        ∃ response payload text seconds, response.payload = .ok payload ∧
          Asked response payload text seconds ∧ pause = .float seconds := by
  obtain ⟨e, he⟩ : ∃ e, errorOfResponse (busyResponse "8") "openai" = .ok e := ⟨_, rfl⟩
  obtain ⟨hasked, hslept⟩ := retryAfter?_asked_and_slept patientPolicy (alwaysFailing e)
  refine ⟨hasked _ _ _ rfl, e, he, ?_, hslept rfl (alwaysFailing_ofResponses he)⟩
  cases he
  decide +kernel

/-- Whether a number is a float without end. -/
def Number.isEndless : Number → Bool
  | .int _ => false
  | .float x => x == 1.0 / 0.0

/-- A response that asks for a retry after a number of seconds that no float is near, and retries
that sleep for it. -/
theorem endless_pause :
    (∃ seconds, retryAfter? (busyResponse "1e400") .null = some seconds ∧
      seconds.isFinite = false) ∧
    ∃ e, errorOfResponse (busyResponse "1e400") "openai" = .ok e ∧
      (retry patientPolicy (alwaysFailing e)).sleeps.any Number.isEndless = true := by
  exact ⟨⟨_, rfl, by decide +kernel⟩, _, rfl, by decide +kernel⟩

end Colloquy
