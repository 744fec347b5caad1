import DesiredState.Proofs.Json.RoundTrip
import DesiredState.Resource.Resolution

/-!
# The payload's body in a template

A template that is one expression comes to the text of the value at its path. Where the path leads
to the payload's body and the body is a JSON container, this is another text for the same value, as
long as the value has no floating point number.

* `Template.render_expression`: a template that is one expression.
* `Path.lookup_payloadBody`: where the expression for the payload's body leads.
* `Json.decode_inserted`: **a container that was read is read again** where it is inserted.
* `Resource.payloadBody_decodes`: **the rendered text has the value of the body.**
-/

namespace DesiredState

variable {t : Text} {v context : Json} {r : Resource} {m : Mapping} {q : ResolvedRequest}

namespace Json

/-- A container is inserted as it is written on one line. -/
theorem inserted_container (hcontainer : ∀ s, v ≠ .scalar s) : v.inserted = v.encode := by
  cases v with
  | scalar s => exact absurd rfl (hcontainer s)
  | arr vs => rfl
  | obj ms => rfl

/-- **A container that was read is read again** from the text that is inserted for it. -/
theorem decode_inserted (hv : decode t = .ok v) (ht : t.NoSurrogates)
    (hcontainer : ∀ s, v ≠ .scalar s) (hfloat : v.FloatFree) : decode v.inserted = .ok v := by
  rw [inserted_container hcontainer]
  exact decode_encode_of_decode hv ht hfloat

theorem ofBody_of_decode (hv : decode t = .ok v) : ofBody t = v := by
  unfold ofBody
  rw [hv]

end Json

/-! ### One expression -/

namespace Template

/-- The template with the payload's body as its only expression. -/
def payloadBody : Text := "\x7b\x7b .payload.body \x7d\x7d"

theorem pieces_payloadBody : pieces payloadBody = [.expression ".payload.body"] := by
  cbv

/-- **A template that is one expression** renders to the text of the value at its path. -/
theorem render_expression {path : Text} (hpieces : pieces t = [.expression path])
    (hlookup : Path.lookup context path = .ok (some v)) (hwritable : v.isWritable = true) :
    render context t = .ok ⟨v.inserted, []⟩ := by
  have hpath : renderPath context path = .ok ⟨v.inserted, []⟩ := by
    unfold renderPath
    simp only [hlookup, hwritable, if_true]
  unfold render
  rw [hpieces, renderPieces, hpath]
  simp only [renderPieces, List.append_nil]

end Template

/-- The path of the payload's body leads to its value, or to the body itself. -/
theorem Path.lookup_payloadBody (r : Resource) :
    Path.lookup r.context ".payload.body" = .ok (some (Json.ofBody r.spec.payload.body)) := by
  have hscan : Path.scan ".payload.body" = ([.key "payload", .key "body"], []) := by cbv
  unfold Path.lookup
  rw [if_neg (by decide), hscan]
  rfl

namespace Resource

/-- The body of a request that was generated is what the mapping's body renders to. -/
theorem body_of_generate {rendered : Template.Rendered}
    (hbody : Template.render r.context m.body = .ok rendered) (h : r.generate m = .ok q) :
    q.body = rendered.text := by
  unfold generate at h
  split at h
  · cases h
  next request unresolved hmapping =>
  split at h
  · cases h
  cases h
  unfold renderMapping at hmapping
  simp only [hbody] at hmapping
  split at hmapping
  · cases hmapping
  split at hmapping
  · cases hmapping
  cases hmapping
  rfl

/-- **The rendered text has the value of the body**, if the body is the text of a container without
floating point numbers and without literal surrogates: the value is inserted, its text is read as
the value, and every request whose mapping has the expression for its body carries this text. -/
theorem payloadBody_decodes (t : Text) (v : Json) (ht : t.NoSurrogates)
    (hv : Json.decode t = .ok v) (hcontainer : ∀ s, v ≠ .scalar s) (hfloat : v.FloatFree) :
    v.isWritable = true ∧ Json.decode v.inserted = .ok v ∧
      ∀ r : Resource, r.spec.payload.body = t →
        Template.render r.context Template.payloadBody = .ok ⟨v.inserted, []⟩ ∧
          ∀ m q, m.body = Template.payloadBody → r.generate m = .ok q →
            q.body = v.inserted ∧ Json.decode q.body = .ok v := by
  have hwritable := Json.isWritable_of_decode hv
  have hagain := Json.decode_inserted hv ht hcontainer hfloat
  refine ⟨hwritable, hagain, fun r hr => ?_⟩
  have hlookup := Path.lookup_payloadBody r
  rw [hr, Json.ofBody_of_decode hv] at hlookup
  have hrender := Template.render_expression Template.pieces_payloadBody hlookup hwritable
  refine ⟨hrender, fun m q hm hq => ?_⟩
  have hbody : q.body = v.inserted := body_of_generate (hm ▸ hrender) hq
  exact ⟨hbody, hbody ▸ hagain⟩

/-- A body with a negative number, an escaped pair of surrogates, an escaped surrogate without its
partner and a letter that is written as an escape. -/
def escapedBody : Text := "\x7b\"k\":[-12,\"\\ud83d\\ude00\\uDC00\"],\"é\":\x7b\x7d\x7d"

/-- The value of the body. -/
def escapedValue : Json :=
  .obj [("k", .arr [.int (-12), .str [.ofNat 0x1F600, .ofNat 0xDC00]]), ("é", .obj [])]

/-- The text that is inserted for it. -/
def rewrittenBody : Text :=
  "\x7b\"k\": [-12, \"\\ud83d\\ude00\\udc00\"], \"\\u00e9\": \x7b\x7d\x7d"

/-- A resource with the body, which its creation sends on. -/
def escaping : Resource where
  name := "escaping"
  spec := ⟨⟨"u", escapedBody⟩, [(.post, ⟨.post, [], Template.payloadBody, []⟩)], [], false⟩
  status := ⟨⟨[], [], [], []⟩, ⟨0, [], []⟩, 0, []⟩

/-- The body that is sent spells the value in another way. -/
theorem payloadBody_decodes_escaping :
    escapedBody.NoSurrogates ∧ Json.decode escapedBody = .ok escapedValue ∧
      (∀ s, escapedValue ≠ .scalar s) ∧ escapedValue.FloatFree ∧
      escaping.generate ⟨.post, [], Template.payloadBody, []⟩ = .ok ⟨"u", rewrittenBody, []⟩ ∧
      Json.decode rewrittenBody = .ok escapedValue := by
  have hbody : escapedBody.NoSurrogates := by decide
  have hvalue : Json.decode escapedBody = .ok escapedValue := by cbv
  have hcontainer : ∀ s, escapedValue ≠ .scalar s := by
    intro s h
    cases h
  have hfloat : escapedValue.FloatFree :=
    ⟨trivial, ⟨trivial, trivial, trivial⟩, trivial, trivial, trivial⟩
  have hinserted : escapedValue.inserted = rewrittenBody := by cbv
  obtain ⟨-, -, hresource⟩ := payloadBody_decodes _ _ hbody hvalue hcontainer hfloat
  obtain ⟨hrender, hsent⟩ := hresource escaping rfl
  rw [hinserted] at hrender
  -- the URL has no expression, so it renders without a look at the context
  have hurl : Template.render escaping.context "u" = .ok ⟨"u", []⟩ := rfl
  have hrequest : escaping.generate ⟨.post, [], Template.payloadBody, []⟩ =
      .ok ⟨"u", rewrittenBody, []⟩ := by
    have htemplate : escaping.urlTemplate ⟨.post, [], Template.payloadBody, []⟩ = "u" := rfl
    have hheaders : escaping.effectiveHeaders ⟨.post, [], Template.payloadBody, []⟩ = [] := rfl
    simp only [generate, renderMapping, htemplate, hurl, hrender, hheaders, renderHeaders]
    rfl
  exact ⟨hbody, hvalue, hcontainer, hfloat, hrequest, (hsent _ _ rfl hrequest).2⟩

end Resource

end DesiredState
