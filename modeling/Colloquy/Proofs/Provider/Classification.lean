import Colloquy.Proofs.Error.Escape
import Colloquy.Proofs.Text.Search
import Colloquy.Retry.Basic

/-!
# Classification of failed exchanges

A response without success becomes an error whose class follows from the status and from
what the response says (`Error.Classifies`), and a retry may help after the error just when
its status or a delay in it says so.  This is what `errorOfResponse_classifies` says of every
response that becomes an error.  A response does so unless its body nests too deep
(`errorOfResponse_escapes_iff`).
-/

namespace Colloquy

/-! ## Responses that cannot be read -/

/-- The document in the body of a response nests too deep to be read. -/
def Wire.Response.TooDeep (response : Wire.Response) : Prop :=
  ∃ fault, Json.decode response.body = .error fault ∧ fault.isTooDeep = true

theorem errorOfResponse_escapes_iff (response : Wire.Response) (provider : Text) :
    Escapes (errorOfResponse response provider) ↔ response.TooDeep := by
  rw [errorOfResponse, escapes_bind_iff_left fun _ => not_escapes_pure _, Wire.Response.payload,
    Wire.Response.TooDeep]
  cases Json.decode response.body with
  | ok value => simp
  | error fault =>
    cases hdeep : fault.isTooDeep with
    | true =>
      dsimp only
      rw [if_pos hdeep]
      exact iff_of_true (escapes_foreign _ _) ⟨fault, rfl, hdeep⟩
    | false => simp [hdeep]

/-! ## Phrases -/

/-- A phrase by which a backend says that the conversation is too long. -/
inductive LengthPhrase : Text → Prop
  | context {gap tail : Text} (hgap : gap = [] ∨ gap = " " ∨ gap = "_" ∨ gap = "-")
      (htail : tail = "length" ∨ tail = "window") :
      LengthPhrase (Text.concat ["context", gap, tail])
  | maximum : LengthPhrase "maximum context"
  | tokens : LengthPhrase "too many tokens"
  | prompt : LengthPhrase "prompt is too long"
  | limit : LengthPhrase "token limit"
  | exceeds : LengthPhrase "exceeds the maximum"

theorem mem_lengthPhrases_iff {phrase : Text} : phrase ∈ lengthPhrases ↔ LengthPhrase phrase := by
  constructor
  · intro h
    have hcontext : ∀ gap ∈ ([[], " ", "_", "-"] : List Text), ∀ tail ∈ (["length", "window"] :
        List Text), LengthPhrase (Text.concat ["context", gap, tail]) := by
      intro gap hgap tail htail
      exact .context (by simpa using hgap) (by simpa using htail)
    simp only [lengthPhrases, List.mem_cons, List.not_mem_nil, or_false] at h
    rcases h with rfl | rfl | rfl | rfl | rfl | rfl | rfl | rfl | rfl | rfl | rfl | rfl | rfl
    · exact hcontext [] (by decide) "length" (by decide)
    · exact hcontext " " (by decide) "length" (by decide)
    · exact hcontext "_" (by decide) "length" (by decide)
    · exact hcontext "-" (by decide) "length" (by decide)
    · exact hcontext [] (by decide) "window" (by decide)
    · exact hcontext " " (by decide) "window" (by decide)
    · exact hcontext "_" (by decide) "window" (by decide)
    · exact hcontext "-" (by decide) "window" (by decide)
    · exact .maximum
    · exact .tokens
    · exact .prompt
    · exact .limit
    · exact .exceeds
  · intro h
    cases h with
    | context hgap htail =>
      rcases hgap with rfl | rfl | rfl | rfl <;> rcases htail with rfl | rfl <;> decide
    | maximum => decide
    | tokens => decide
    | prompt => decide
    | limit => decide
    | exceeds => decide

theorem isPlain_of_mem_lengthPhrases :
    ∀ phrase ∈ lengthPhrases, ∀ p ∈ phrase, Text.IsPlain p := by
  decide

/-- A text says that the conversation is too long when one of the phrases occurs in it, in letters
of either case. -/
theorem saysTooLong_iff {text : Text} :
    saysTooLong text = true ↔ ∃ phrase, LengthPhrase phrase ∧ Text.Mentions text phrase := by
  simp only [saysTooLong, List.any_eq_true, Text.includes_iff, ← mem_lengthPhrases_iff]
  refine exists_congr fun phrase => and_congr_right fun hphrase => ?_
  exact Text.infix_map_fold_iff (isPlain_of_mem_lengthPhrases phrase hphrase)

/-! ## What a response says -/

theorem Value.nonEmptyText?_eq_some_iff {v : Value} {t : Text} :
    v.nonEmptyText? = some t ↔ v = .text t ∧ t ≠ [] := by
  rcases v with _ | _ | _ | _ | (_ | ⟨c, rest⟩) | _ | _ | _ | _
  all_goals simp [nonEmptyText?]
  rintro rfl
  exact List.cons_ne_nil c rest

theorem Value.nonEmptyText?_eq_none_iff {v : Value} :
    v.nonEmptyText? = none ↔ ∀ t ≠ [], v ≠ .text t := by
  simp only [Option.eq_none_iff_forall_ne_some, ne_eq, nonEmptyText?_eq_some_iff, not_and']

/-- The message of an error payload: of the error object in it, or the error itself when it is
a text, or the message next to an error that says nothing. -/
inductive Value.Says (payload : Value) : Text → Prop
  | within {m : Text} (hm : (payload.field "error").field "message" = .text m) (hsome : m ≠ []) :
      Says payload m
  | itself {m : Text} (hm : payload.field "error" = .text m) (hsome : m ≠ []) : Says payload m
  | beside {m : Text} (hm : payload.field "message" = .text m) (hsome : m ≠ [])
      (hwithin : ∀ n ≠ [], (payload.field "error").field "message" ≠ .text n)
      (hitself : ∀ n ≠ [], payload.field "error" ≠ .text n) : Says payload m

theorem errorMessage?_eq_some_iff {payload : Value} {m : Text} :
    errorMessage? payload = some m ↔ payload.Says m := by
  have hplaces : errorMessage? payload =
      (((payload.field "error").field "message").nonEmptyText?
        <|> (payload.field "error").nonEmptyText?
        <|> (payload.field "message").nonEmptyText?) := by
    cases payload <;> rfl
  rw [hplaces]
  constructor
  · intro h
    cases hwithin : ((payload.field "error").field "message").nonEmptyText? with
    | some n =>
      rw [hwithin] at h
      cases h
      obtain ⟨hn, hsome⟩ := Value.nonEmptyText?_eq_some_iff.1 hwithin
      exact .within hn hsome
    | none =>
      cases hitself : (payload.field "error").nonEmptyText? with
      | some n =>
        rw [hwithin, hitself] at h
        cases h
        obtain ⟨hn, hsome⟩ := Value.nonEmptyText?_eq_some_iff.1 hitself
        exact .itself hn hsome
      | none =>
        rw [hwithin, hitself] at h
        obtain ⟨hm, hsome⟩ := Value.nonEmptyText?_eq_some_iff.1 h
        exact .beside hm hsome (Value.nonEmptyText?_eq_none_iff.1 hwithin)
          (Value.nonEmptyText?_eq_none_iff.1 hitself)
  · intro h
    cases h with
    | within hm hsome =>
      rw [Value.nonEmptyText?_eq_some_iff.2 ⟨hm, hsome⟩]
      rfl
    | itself hm hsome =>
      rw [Value.nonEmptyText?_eq_some_iff.2 ⟨hm, hsome⟩, hm]
      rfl
    | beside hm hsome hwithin hitself =>
      rw [Value.nonEmptyText?_eq_none_iff.2 hwithin, Value.nonEmptyText?_eq_none_iff.2 hitself,
        Value.nonEmptyText?_eq_some_iff.2 ⟨hm, hsome⟩]
      rfl

/-- What a response with a payload says: the message of the payload when it has one, else the front
of the body. -/
inductive Wire.Response.Says (response : Wire.Response) (payload : Value) : Text → Prop
  | message {m : Text} (hm : payload.Says m) : Says response payload m
  | body (hnone : ∀ m, ¬payload.Says m) :
      Says response payload (Utf8.decodeLenient (response.body.take 200))

theorem responseDetail_says (response : Wire.Response) (payload : Value) :
    response.Says payload (responseDetail response.body payload) := by
  unfold responseDetail
  split
  · rename_i m hm
    exact .message (errorMessage?_eq_some_iff.1 hm)
  · rename_i hnone
    refine .body fun m hm => ?_
    rw [errorMessage?_eq_some_iff.2 hm] at hnone
    cases hnone

/-! ## Classes and retries -/

/-- An error stands for a response with a payload: it tells `detail`, its class follows from the
status and from `detail`, and a retry may help after it just when the status is one of some or
a delay was found. -/
structure Error.Classifies (e : Error) (response : Wire.Response) (provider : Text)
    (payload : Value) (detail : Text) : Prop where
  message : e.message = Text.concat [provider, " request failed (status=",
    Text.ofInt response.status, ")", if detail = [] then [] else Text.concat [": ", detail]]
  rateLimit : e.cls = .rateLimit ↔ response.status = 429
  authentication : e.cls = .authentication ↔ response.status = 401 ∨ response.status = 403
  unsupportedModel : e.cls = .unsupportedModel ↔ response.status = 404
  contextLength : e.cls = .contextLength ↔ (response.status = 400 ∨ response.status = 413) ∧
    ∃ phrase, LengthPhrase phrase ∧ Text.Mentions detail phrase
  unavailable : e.cls = .unavailable ↔ 500 ≤ response.status
  plain : e.cls = .api ↔ response.status ∉ [429, 401, 403, 404] ∧ response.status < 500 ∧
    ¬((response.status = 400 ∨ response.status = 413) ∧
      ∃ phrase, LengthPhrase phrase ∧ Text.Mentions detail phrase)
  retried : shouldRetry (.own e) = true ↔
    response.status ∈ [408, 409, 429, 500, 502, 503, 504] ∨
      (headerDelay? response).isSome = true ∨ (payloadDelay? payload).isSome = true

/-- The class follows from the status and the detail, one case after the other. -/
theorem classify_cases (status : Int) (detail provider : Text) :
    let cls := (classify status detail provider).1
    let tooLong := (status = 400 ∨ status = 413) ∧ saysTooLong detail = true
    (cls = .rateLimit ∧ status = 429) ∨
      (cls = .authentication ∧ (status = 401 ∨ status = 403)) ∨
      (cls = .unsupportedModel ∧ status = 404) ∨
      (cls = .contextLength ∧ tooLong) ∨
      (cls = .unavailable ∧ 500 ≤ status) ∨
      (cls = .api ∧ status ∉ [429, 401, 403, 404] ∧ status < 500 ∧ ¬tooLong) := by
  unfold classify
  split_ifs with hrate hauthentication hmodel hlong hunavailable
  · exact .inl ⟨rfl, hrate⟩
  · exact .inr (.inl ⟨rfl, hauthentication⟩)
  · exact .inr (.inr (.inl ⟨rfl, hmodel⟩))
  · exact .inr (.inr (.inr (.inl ⟨rfl, hlong⟩)))
  · exact .inr (.inr (.inr (.inr (.inl ⟨rfl, hunavailable⟩))))
  · refine .inr (.inr (.inr (.inr (.inr ⟨rfl, ?_, by omega, hlong⟩))))
    simp
    omega

/-- The error that a response becomes. -/
theorem errorOfResponse_eq_ok_iff {response : Wire.Response} {provider : Text} {e : Error} :
    errorOfResponse response provider = .ok e ↔ ∃ payload, response.payload = .ok payload ∧
      e = { cls := (classify response.status (responseDetail response.body payload) provider).1
            message :=
              let front := Text.concat [provider, " request failed (status=",
                Text.ofInt response.status, ")"]
              if responseDetail response.body payload = [] then front
              else Text.concat [front, ": ", responseDetail response.body payload]
            hint := (classify response.status (responseDetail response.body payload) provider).2
            retryable := .bool (retryableStatuses.contains response.status ||
              (retryAfter? response payload).isSome)
            statusCode := .int response.status
            retryAfter := .ofSeconds? (retryAfter? response payload)
            provider := .text provider
            phase := .ofString "generate" } := by
  rw [errorOfResponse, bind_eq_ok_iff]
  refine exists_congr fun payload => and_congr_right fun _ => ?_
  exact ⟨fun h => by cases h; rfl, fun h => by rw [h]; rfl⟩

theorem isSome_retryAfter?_iff {response : Wire.Response} {payload : Value} :
    (retryAfter? response payload).isSome = true ↔
      (headerDelay? response).isSome = true ∨ (payloadDelay? payload).isSome = true := by
  unfold retryAfter?
  cases headerDelay? response with
  | some seconds => exact iff_of_true rfl (.inl rfl)
  | none => exact (or_iff_right Bool.false_ne_true).symm

theorem errorOfResponse_returns_iff {response : Wire.Response} {provider : Text} :
    (∃ e, errorOfResponse response provider = .ok e) ↔ ¬response.TooDeep := by
  have hpayload : (∃ e, errorOfResponse response provider = .ok e) ↔
      ∃ payload, response.payload = .ok payload :=
    exists_bind_eq_ok_iff_left fun _ => ⟨_, rfl⟩
  rw [hpayload, Wire.Response.payload, Wire.Response.TooDeep]
  cases Json.decode response.body with
  | ok value => simp
  | error fault => cases hdeep : fault.isTooDeep <;> simp [hdeep]

/-- A response becomes an error unless its body nests too deep, and the error classifies what the
response says. -/
theorem errorOfResponse_classifies (response : Wire.Response) (provider : Text) :
    ((∃ e, errorOfResponse response provider = .ok e) ↔ ¬response.TooDeep) ∧
      ∀ e, errorOfResponse response provider = .ok e → ∃ payload detail,
        response.payload = .ok payload ∧ response.Says payload detail ∧
        e.Classifies response provider payload detail := by
  refine ⟨errorOfResponse_returns_iff, fun e he => ?_⟩
  obtain ⟨payload, hpayload, rfl⟩ := errorOfResponse_eq_ok_iff.1 he
  refine ⟨payload, _, hpayload, responseDetail_says response payload, ?_⟩
  have hcases := classify_cases response.status (responseDetail response.body payload) provider
  simp only [saysTooLong_iff] at hcases
  clear he
  constructor
  case message =>
    dsimp only
    split_ifs <;> simp [Text.concat]
  case retried =>
    have hapi : (classify response.status (responseDetail response.body payload)
        provider).1.isA .api = true := by
      rcases hcases with ⟨h, -⟩ | ⟨h, -⟩ | ⟨h, -⟩ | ⟨h, -⟩ | ⟨h, -⟩ | ⟨h, -⟩ <;> rw [h] <;> decide
    have hstatus : retryableStatuses.contains response.status = true ↔
        response.status ∈ [408, 409, 429, 500, 502, 503, 504] :=
      List.contains_iff_mem
    rw [← hstatus, ← isSome_retryAfter?_iff, shouldRetry, Error.isA, hapi, isTrue,
      isRetryableStatus, Bool.true_and, Bool.or_right_comm, Bool.or_self, Bool.or_eq_true]
  all_goals
    dsimp only
    generalize (classify response.status _ _).1 = cls at hcases
    generalize (∃ phrase, _ ∧ _) = long at hcases
    rcases hcases with ⟨rfl, h⟩ | ⟨rfl, h⟩ | ⟨rfl, h⟩ | ⟨rfl, h⟩ | ⟨rfl, h⟩ | ⟨rfl, h⟩
    all_goals simp at h ⊢
    all_goals first | omega | exact h.2.2 | exact fun _ _ _ _ _ => h

/-- A response whose body opens lists within each other. -/
def nestedResponse : Wire.Response :=
  { status := 429, body := List.replicate 986 0x5b, headers := [] }

/-- The response becomes no error, though its status is one of those after which a retry may
help. -/
theorem nestedResponse_unclassified : nestedResponse.isSuccess = false ∧
    ∀ e, errorOfResponse nestedResponse "openai" ≠ .ok e := by
  have hfailed : (errorOfResponse nestedResponse "openai").isOk = false := by
    decide +kernel
  refine ⟨rfl, fun e he => ?_⟩
  rw [he] at hfailed
  cases hfailed

end Colloquy
