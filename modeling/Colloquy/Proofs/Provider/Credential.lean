import Colloquy.Provider.Exchange
import Colloquy.Session
import Mathlib.Data.List.Forall2

/-!
# Credentials stay hidden

Keys and organizations go into headers, and into no other part of a request.  Which
ones they are does not matter for anything else: with one or the other, the same
requests are refused for the same reason, and those that are built look the same
(`Wire.Request.View`).

* Headers that differ in credentials only look the same when credentials are hidden
  (`Wire.redactedHeaders_eq`).
* The address and the body of a request are settled without its headers
  (`Backend.draft`), so the headers are all that depends on credentials.
* Configurations, sessions and backends are shown without their keys.
-/

namespace Colloquy

/-! ## Hidden headers -/

namespace Wire

/-- Two headers of one name, which have the same value unless the name is that of a credential. -/
def OpenlySame (header header' : Text × Value) : Prop :=
  header.1 = header'.1 ∧ (Text.lower header.1 ∈ credentialHeaders ∨ header.2 = header'.2)

theorem OpenlySame.refl (header : Text × Value) : OpenlySame header header :=
  ⟨rfl, .inr rfl⟩

/-- A header of a credential may have any value. -/
theorem OpenlySame.secret {name : Text} (h : Text.lower name ∈ credentialHeaders)
    (value value' : Value) : OpenlySame (name, value) (name, value') :=
  ⟨rfl, .inl h⟩

namespace Request

/-- What a request shows of itself to one who may not see its credentials: its parts, and the text
that it is shown as. -/
structure View where
  method : Text
  url : Text
  headers : Fields
  body : Bytes
  shown : Text

/-- What a request shows of itself. -/
def view (r : Request) : View where
  method := r.method
  url := r.url
  headers := r.redactedHeaders
  body := r.body
  shown := r.shown

/-- Headers that differ in credentials only are the same when credentials are hidden. -/
theorem redactedHeaders_eq {r r' : Request} (h : List.Forall₂ OpenlySame r.headers r'.headers) :
    r.redactedHeaders = r'.redactedHeaders := by
  rw [redactedHeaders, redactedHeaders]
  generalize r.headers = headers at h ⊢
  generalize r'.headers = headers' at h ⊢
  induction h with
  | nil => rfl
  | @cons header header' rest rest' hhead _ ih =>
    obtain ⟨hname, hvalue⟩ := hhead
    rw [List.map_cons, List.map_cons, ih]
    congr 1
    obtain ⟨name, value⟩ := header
    obtain ⟨name', value'⟩ := header'
    obtain rfl : name = name' := hname
    rcases hvalue with hsecret | hsame
    · exact Prod.ext rfl ((if_pos hsecret).trans (if_pos hsecret).symm)
    · obtain rfl : value = value' := hsame
      rfl

/-- Requests that differ in credentials only look the same. -/
theorem view_eq {method url : Text} {headers headers' : Fields} {body : Bytes}
    (h : List.Forall₂ OpenlySame headers headers') :
    view ⟨method, url, headers, body⟩ = view ⟨method, url, headers', body⟩ := by
  have hredacted : redactedHeaders ⟨method, url, headers, body⟩
      = redactedHeaders ⟨method, url, headers', body⟩ := redactedHeaders_eq h
  simp only [view, shown, hredacted]

end Request

end Wire

/-! ## Requests -/

namespace Backend

open Wire

/-- A backend with other credentials. -/
def withCredentials (b : Backend) (key organization : Value) : Backend :=
  { b with apiKey := key, organization }

/-- The address and the body of the request for the next message of a chat. -/
def draft (b : Backend) (model : Value) (chat : Chat) : Except Exception (Text × Bytes) := do
  let url ← b.endpoint model.inText
  checkChat chat b.provider.capabilities b.provider.name
  let payload ← b.payload model.inText chat
  let body ← dumpPayload payload
  return (url, body)

/-- A request is its address and its body with the headers of the backend. -/
theorem buildRequest_eq_draft (b : Backend) (model : Value) (chat : Chat) :
    b.buildRequest model chat = (b.draft model chat).map fun (url, body) =>
      { method := "POST", url, headers := b.headers, body } := by
  rw [buildRequest, draft]
  cases b.endpoint model.inText with
  | error e => rfl
  | ok url =>
    cases checkChat chat b.provider.capabilities b.provider.name with
    | error e => rfl
    | ok u =>
      cases b.payload model.inText chat with
      | error e => rfl
      | ok payload =>
        cases hbody : dumpPayload payload with
        | error e => simp only [bind, Except.bind, Except.map, hbody]
        | ok body => simp only [bind, Except.bind, Except.map, hbody, pure, Except.pure]

/-- The address and the body do not depend on credentials. -/
theorem draft_withCredentials (b : Backend) (key organization : Value) (model : Value)
    (chat : Chat) : (b.withCredentials key organization).draft model chat = b.draft model chat :=
  rfl

/-- The headers of a backend differ in credentials only, whatever its key and its organization are.
For a backend that is told the organization it matters whether there is one. -/
theorem headers_openlySame (b : Backend) (key key' organization organization' : Value)
    (h : b.provider = .openai → organization.truthy = organization'.truthy) :
    List.Forall₂ OpenlySame (b.withCredentials key organization).headers
      (b.withCredentials key' organization').headers := by
  have hrefl : ∀ headers : Fields, List.Forall₂ OpenlySame headers headers := fun headers =>
    List.forall₂_same.2 fun header _ => .refl header
  obtain ⟨provider, apiKey, baseUrl, own⟩ := b
  have hauthorization : OpenlySame
      ("Authorization", .text (Text.concat ["Bearer ", key.inText]))
      ("Authorization", .text (Text.concat ["Bearer ", key'.inText])) := .secret (by decide) _ _
  cases provider with
  | openai =>
    have htruthy : organization.truthy = organization'.truthy := h rfl
    show List.Forall₂ OpenlySame (OpenAI.headers key organization)
      (OpenAI.headers key' organization')
    rw [OpenAI.headers, OpenAI.headers, htruthy]
    refine .cons hauthorization (.cons (.refl _) ?_)
    split
    · exact .cons (.secret (by decide) organization organization') (hrefl _)
    · exact hrefl _
  | mistral => exact .cons hauthorization (hrefl _)
  | anthropic => exact .cons (.secret (by decide) key key') (hrefl _)
  | gemini => exact .cons (.secret (by decide) key key') (hrefl _)
  | ollama => exact hrefl _
  | mock => exact hrefl _

end Backend

/-! ## What is shown of a configuration -/

/-- A configuration with another key. -/
def Config.withKey (c : Config) (key : Value) : Config :=
  { c with apiKey := key }

theorem Config.shown_withKey (c : Config) {key key' : Value} (h : key.truthy = key'.truthy) :
    (c.withKey key).shown = (c.withKey key').shown := by
  have hkey : (c.withKey key).apiKey.truthy = (c.withKey key').apiKey.truthy := h
  rw [shown, shown, hkey]
  rfl

/-- Credentials stay in the headers of credentials.  With one key or another, and with one
organization or another, a backend refuses the same requests with the same error, and builds
requests that look the same.  Configurations with one key or another are shown as the same text, and
so are the sessions with them and their backends. -/
theorem Backend.credentials_confined :
    (∀ (b : Backend) (model : Value) (chat : Chat) (key key' organization organization' : Value),
      (b.provider = .openai → organization.truthy = organization'.truthy) →
      ((b.withCredentials key organization).buildRequest model chat).map Wire.Request.view
        = ((b.withCredentials key' organization').buildRequest model chat).map
          Wire.Request.view) ∧
    (∀ (c : Config) (key key' : Value), key.truthy = true → key'.truthy = true →
      (c.withKey key).shown = (c.withKey key').shown ∧
      (c.withKey key).backend.shown = (c.withKey key').backend.shown ∧
      ∀ registry breakOn transport,
        (Session.mk (c.withKey key) registry breakOn transport).shown
          = (Session.mk (c.withKey key') registry breakOn transport).shown) := by
  constructor
  · intro b model chat key key' organization organization' h
    have hheaders := b.headers_openlySame key key' organization organization' h
    rw [buildRequest_eq_draft, buildRequest_eq_draft, draft_withCredentials,
      draft_withCredentials]
    cases b.draft model chat with
    | error e => rfl
    | ok drafted => exact congrArg Except.ok (Wire.Request.view_eq hheaders)
  · intro c key key' hkey hkey'
    have hshown := c.shown_withKey (hkey.trans hkey'.symm)
    refine ⟨hshown, rfl, ?_⟩
    intro registry breakOn transport
    simp only [Session.shown, hshown]

/-- One request with the key and the organization of one customer and with those of another, and a
configuration with either key. -/
theorem Backend.credentials_confined_customers :
    let b : Backend := { provider := .openai }
    let c : Config :=
      { provider := .openai, model := "gpt-4o-mini", apiKey := .null, baseUrl := .null,
        organization := .null, timeout := .float 60.0, maxToolRounds := .flag,
        toolErrorPolicy := .raise, named := List.cons_ne_nil _ _ }
    ((b.withCredentials "sk-acme" "acme").buildRequest "gpt-4o-mini" {}).isOk = true ∧
    ((b.withCredentials "sk-acme" "acme").buildRequest "gpt-4o-mini" {}).map Wire.Request.view
      = ((b.withCredentials "sk-initech" "initech").buildRequest "gpt-4o-mini" {}).map
        Wire.Request.view ∧
    (c.withKey "sk-acme").shown = (c.withKey "sk-initech").shown := by
  intro b c
  exact ⟨by decide +kernel, Backend.credentials_confined.1 b _ _ _ _ _ _ fun _ => rfl,
    (Backend.credentials_confined.2 c _ _ rfl rfl).1⟩

end Colloquy
