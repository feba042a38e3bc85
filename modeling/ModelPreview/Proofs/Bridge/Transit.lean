import Mathlib
import ModelPreview.Bridge.Host
import ModelPreview.Bridge.Surface
import ModelPreview.Proofs.Bridge.WireRoundTrip

/-!
# Texts on their way

Posting either goes through for all messages or for none, depending on whether the surface is still
there.  At the other end the texts that can be decoded are handed to the handler in their order; of
the texts that the controller posts these are the models with finite numbers.

Main results:

- `HostBridge.postAll_eq`: posting in closed form.
- `SurfaceBridge.pump_value`: the messages accepted are those handed to the handler.
- `SurfaceBridge.accepted_map_encode`: which posted messages are accepted.
-/

namespace ModelPreview

/-! ## Posting -/

/-- The link after texts have been posted to the surface. -/
def Link.deliver (l : Link) (payloads : List String) : Link :=
  { l with surface := { l.surface with unread := l.surface.unread ++ payloads } }

@[simp]
theorem Link.deliver_nil (l : Link) : l.deliver [] = l := by
  simp [deliver]

@[simp]
theorem Link.deliver_deliver (l : Link) (ps qs : List String) :
    (l.deliver ps).deliver qs = l.deliver (ps ++ qs) := by
  simp [deliver]

@[simp]
theorem Link.isOpen_deliver (l : Link) (ps : List String) :
    (l.deliver ps).surface.isOpen = l.surface.isOpen := rfl

@[simp]
theorem Link.unread_deliver (l : Link) (ps : List String) :
    (l.deliver ps).surface.unread = l.surface.unread ++ ps := rfl

theorem Link.post_host (l : Link) (payload : String) :
    l.post .host payload = if l.surface.isOpen then some (l.deliver [payload]) else none := rfl

namespace HostBridge

variable {κ : Type}

/-- Messages are posted all together, or not at all if the surface is gone. -/
theorem postAll_eq (l : Link) (ms : List RenderMessage) :
    postAll l ms =
      if l.surface.isOpen ∨ ms = [] then ([], l.deliver (ms.map RenderMessage.encode), .ok ())
      else (ms, l, .error .disconnected) := by
  induction ms generalizing l with
  | nil => simp [postAll]
  | cons m ms ih =>
    by_cases hopen : l.surface.isOpen = true
    · rw [postAll, Link.post_host, if_pos hopen]
      simp [ih, hopen, Link.isOpen_deliver]
    · rw [postAll, Link.post_host, if_neg hopen]
      simp [hopen]

end HostBridge

/-! ## What a surface accepts -/

namespace SurfaceBridge

/-- The messages among payloads that can be decoded, in order. -/
def accepted (payloads : List String) : List RenderMessage :=
  payloads.filterMap fun p => (RenderMessage.decode p).toOption

variable {σ : Type}

theorem deliverAll_value (handle : σ → RenderMessage → Logged σ) (st : σ) (payloads : List String) :
    (deliverAll handle st payloads).value =
      ((accepted payloads).foldl (fun st m => (handle st m).value) st,
        (accepted payloads).length) := by
  induction payloads generalizing st with
  | nil => rfl
  | cons p ps ih =>
    cases hp : RenderMessage.decode p with
    | ok m => simp [deliverAll, accepted, hp, ih, Except.toOption]
    | error e => simp [deliverAll, accepted, hp, ih, Except.toOption]

/-- A surface with a handler empties its inbox and hands the accepted messages to the handler. -/
theorem pump_value {b : SurfaceBridge} (hattached : b.attached = true) (l : Link)
    (handle : σ → RenderMessage → Logged σ) (st : σ) :
    (b.pump l handle st).value =
      (l.setInbox .surface { l.surface with unread := [] },
        (accepted l.surface.unread).foldl (fun st m => (handle st m).value) st,
        (accepted l.surface.unread).length) := by
  simp [pump, hattached, deliverAll_value]

theorem mem_accepted_iff {payloads : List String} {m : RenderMessage} :
    m ∈ accepted payloads ↔ ∃ p ∈ payloads, RenderMessage.decode p = .ok m := by
  have hoption (x : Except ProtocolError RenderMessage) : x.toOption = some m ↔ x = .ok m := by
    cases x <;> simp [Except.toOption]
  simp only [accepted, List.mem_filterMap, hoption]

theorem accepted_append (ps qs : List String) :
    accepted (ps ++ qs) = accepted ps ++ accepted qs := by
  simp [accepted]

/-- Of the messages of a controller those with finite numbers are accepted. -/
theorem accepted_map_encode (ms : List RenderMessage) :
    accepted (ms.map RenderMessage.encode) = ms.filter fun m => AllFinite m.model.numbers := by
  induction ms with
  | nil => rfl
  | cons m ms ih =>
    have hdecode := RenderMessage.yieldsIff_decode_encode m
    rw [List.map_cons, ← List.singleton_append, accepted_append, ih]
    by_cases hfinite : AllFinite m.model.numbers
    · simp [accepted, hdecode.eq_ok hfinite, hfinite, Except.toOption]
    · obtain ⟨e, he⟩ := hdecode.exists_error hfinite
      simp [accepted, he, hfinite, Except.toOption]

/-- The last text is accepted as the last message exactly if its numbers are finite. -/
theorem getLast?_accepted_iff {payloads : List String} {m : Model}
    (hlast : payloads.getLast? = some (RenderMessage.renderModel m).encode) :
    (accepted payloads).getLast? = some (.renderModel m) ↔ AllFinite m.numbers := by
  constructor
  · intro haccepted
    obtain ⟨p, -, hp⟩ := mem_accepted_iff.1 (List.mem_of_getLast? haccepted)
    exact RenderMessage.allFinite_of_decode hp
  · intro hfinite
    obtain ⟨front, rfl⟩ := List.getLast?_eq_some_iff.1 hlast
    have hdecode := (RenderMessage.yieldsIff_decode_encode (.renderModel m)).eq_ok hfinite
    simp [accepted, hdecode, Except.toOption]

end SurfaceBridge

end ModelPreview
