import Mathlib
import ModelPreview.Proofs.Bridge.Hearing

/-!
# Exchanges over the bridge

An exchange applies operations to the two ends of a bridge in any order: the controller sends and
pumps, the surface announces itself, installs its handler, pumps or posts texts of its own, and
either end may go away at any time.  A message waits in the backlog of the controller, then in the
inbox of the surface, and is then handed to the handler; on this way nothing is lost, repeated or
overtaken.  Events note what is sent, heard by the controller, posted and taken by the surface.

Main definitions:

- `Exchange.step`: one operation on one of the ends.
- `Exchange.Orderly`: where the messages are.

Main results:

- `Exchange.hear_eq`: a pump of the controller's end, text by text.
- `Exchange.run_orderly`: the invariant of every exchange.
- `Exchange.messages_pass_in_order_once`: what is posted, what waits and what the handler gets.
-/

namespace ModelPreview

/-! ## What the controller's end does -/

/-- What every operation of the controller's end does, where `added` are the messages given to it
and `announced` tells whether the surface announces itself: a first part of what waits is posted,
and nothing is posted before the surface has announced itself or after it has gone. -/
structure HostStep.Sound {κ α : Type} (b : HostBridge κ) (l : Link) (added : List RenderMessage)
    (announced : Prop) (s : HostStep κ α) : Prop where
  posts : ∃ ms, b.backlog ++ added = ms ++ s.bridge.backlog ∧
    s.link.surface = (l.deliver (ms.map RenderMessage.encode)).surface ∧
    (ms ≠ [] → l.surface.isOpen = true ∧ s.bridge.ready = true)
  ready : s.bridge.ready = true → b.ready = true ∨ announced
  drained : (b.ready = true → l.surface.isOpen = true → b.backlog = []) →
    s.bridge.ready = true → l.surface.isOpen = true → s.bridge.backlog = []

namespace HostBridge

variable {κ : Type} (b : HostBridge κ) (l : Link)

/-- A message is put into the backlog, which is flushed once the surface has announced itself. -/
theorem send_value (m : RenderMessage) :
    (b.send l m).value = if b.ready = true then
        HostBridge.flush { b with backlog := b.backlog ++ [m] } l
      else { bridge := { b with backlog := b.backlog ++ [m] }, link := l, result := .ok () } := by
  unfold send
  dsimp only
  split <;> rfl

/-- A message is refused exactly if the surface has announced itself and is gone. -/
theorem send_result (m : RenderMessage) :
    (b.send l m).value.result =
      if b.ready = true ∧ l.surface.isOpen = false then .error .disconnected else .ok () := by
  rw [send_value]
  by_cases hready : b.ready = true
  · by_cases hopen : l.surface.isOpen = true
    · simp [hready, hopen, flush_eq]
    · simp [hready, hopen, flush_eq]
  · simp [hready]

/-- A ready bridge that flushes does so soundly. -/
theorem sound_flush {b b' : HostBridge κ} {l : Link} {added : List RenderMessage}
    {announced : Prop} (hbacklog : b'.backlog = b.backlog ++ added) (hready : b'.ready = true)
    (hannounced : b.ready = true ∨ announced) : (b'.flush l).Sound b l added announced := by
  by_cases hopen : l.surface.isOpen = true
  · rw [flush_eq, if_pos (.inl hopen)]
    refine ⟨⟨b'.backlog, by simp [hbacklog], rfl, fun _ => ⟨hopen, hready⟩⟩, fun _ => hannounced, ?_⟩
    intro _ _ _
    rfl
  · have hkept : (b'.flush l).bridge = b' ∧ (b'.flush l).link = l := by
      rw [flush_eq]
      split
      · rename_i hnil
        have hempty : b'.backlog = [] := hnil.resolve_left hopen
        cases b'
        simp_all
      · exact ⟨rfl, rfl⟩
    refine ⟨⟨[], ?_, ?_, fun hne => absurd rfl hne⟩, fun _ => hannounced, ?_⟩
    · rw [hkept.1, hbacklog, List.nil_append]
    · rw [hkept.2, List.map_nil, Link.deliver_nil]
    · intro _ _ hopen'
      exact absurd hopen' hopen

/-- An operation that leaves backlog, readiness and link alone is sound. -/
theorem sound_idle {α : Type} (announced : Prop) {s : HostStep κ α}
    (hbacklog : s.bridge.backlog = b.backlog) (hready : s.bridge.ready = b.ready)
    (hlink : s.link = l) : s.Sound b l [] announced := by
  refine ⟨⟨[], ?_, ?_, fun hne => absurd rfl hne⟩, ?_, ?_⟩
  · rw [hbacklog, List.append_nil, List.nil_append]
  · rw [hlink, List.map_nil, Link.deliver_nil]
  · intro h
    exact .inl (hready ▸ h)
  · intro hdrained hr hopen
    rw [hbacklog]
    exact hdrained (hready ▸ hr) hopen

theorem sound_send (m : RenderMessage) : (b.send l m).value.Sound b l [m] False := by
  rw [send_value]
  by_cases hready : b.ready = true
  · rw [if_pos hready]
    exact sound_flush rfl hready (.inl hready)
  · rw [if_neg hready]
    refine ⟨⟨[], rfl, ?_, fun hne => absurd rfl hne⟩, fun h => absurd h hready, ?_⟩
    · rw [List.map_nil, Link.deliver_nil]
    · intro _ h
      exact absurd h hready

theorem sound_onReady (k : κ) : (b.onReady l k).Sound b l [] False := by
  unfold onReady
  split
  · exact sound_idle b l False rfl rfl rfl
  · exact sound_idle b l False rfl rfl rfl

theorem Hears.sound {b : HostBridge κ} {l : Link} {payload : String} {s : HostStep κ Nat}
    (h : b.Hears l payload s) : s.Sound b l [] (Announces payload) := by
  cases h with
  | skipped h => exact sound_idle b l _ rfl rfl rfl
  | refused h hversion => exact sound_idle b l _ rfl rfl rfl
  | repeated h hready => exact sound_idle b l _ rfl rfl rfl
  | released h hready hposted =>
    refine ⟨⟨b.backlog, rfl, rfl, ?_⟩, fun _ => .inr h, fun _ _ _ => rfl⟩
    intro hne
    exact ⟨hposted.resolve_right hne, rfl⟩
  | stranded h hready hgone hbacklog =>
    refine ⟨⟨[], List.append_nil _, ?_, fun hne => absurd rfl hne⟩, fun _ => .inr h, ?_⟩
    · rw [List.map_nil, Link.deliver_nil]
    · intro _ _ hopen
      rw [hgone] at hopen
      cases hopen

theorem sound_handlePayload (payload : String) :
    (b.handlePayload l payload).value.Sound b l [] (Announces payload) :=
  (b.hears_handlePayload l payload).sound

end HostBridge

/-! ## Operations and events -/

/-- One operation on one of the two ends. -/
inductive ExchangeOp (κ : Type) where
  /-- The controller sends a message. -/
  | send (m : RenderMessage)
  /-- The controller registers a callback. -/
  | onReady (k : κ)
  /-- The controller handles what the surface has posted. -/
  | hostPump
  /-- The controller's end goes away. -/
  | hostLeave
  /-- The surface announces itself. -/
  | signalReady
  /-- The surface installs its handler. -/
  | attach
  /-- The surface delivers what waits. -/
  | surfacePump
  /-- The surface posts a text of its own. -/
  | surfacePost (payload : String)
  /-- The surface's end goes away. -/
  | surfaceLeave

/-- What is noted about an exchange. -/
inductive ExchangeEvent where
  /-- A message was given to the controller's end. -/
  | sent (m : RenderMessage)
  /-- The controller's end took a text from its inbox. -/
  | heard (payload : String)
  /-- The controller's end posted a text to the surface. -/
  | posted (payload : String)
  /-- A pump of the surface took a text from its inbox. -/
  | taken (payload : String)

namespace ExchangeEvent

/-- The message that an event sends. -/
def message? : ExchangeEvent → Option RenderMessage
  | sent m => some m
  | _ => none

/-- The text that an event posts. -/
def posted? : ExchangeEvent → Option String
  | posted payload => some payload
  | _ => none

/-- The text that an event takes. -/
def taken? : ExchangeEvent → Option String
  | taken payload => some payload
  | _ => none

theorem filterMap_posted?_map (ps : List String) : (ps.map posted).filterMap posted? = ps := by
  simp [Function.comp_def, List.filterMap_map, posted?]

theorem filterMap_message?_map_posted (ps : List String) :
    (ps.map posted).filterMap message? = [] := by
  simp [message?]

theorem filterMap_taken?_map_posted (ps : List String) :
    (ps.map posted).filterMap taken? = [] := by
  simp [taken?]

theorem filterMap_taken?_map (ps : List String) : (ps.map taken).filterMap taken? = ps := by
  simp [Function.comp_def, List.filterMap_map, taken?]

theorem filterMap_message?_map_taken (ps : List String) :
    (ps.map taken).filterMap message? = [] := by
  simp [message?]

theorem filterMap_posted?_map_taken (ps : List String) :
    (ps.map taken).filterMap posted? = [] := by
  simp [posted?]

end ExchangeEvent

open ExchangeEvent

/-- Two ends of a bridge with the state of the surface's handler and the events so far, oldest first.
Whether an end is still there is a matter of the link; of an end that is gone the last state is
kept. -/
structure Exchange (κ σ : Type) where
  /-- The link. -/
  link : Link
  /-- The controller's end. -/
  host : HostBridge κ
  /-- The surface's end. -/
  surface : SurfaceBridge
  /-- The state of the handler. -/
  handler : σ
  /-- The events. -/
  events : List ExchangeEvent

/-- Posting to the controller leaves the inbox of the surface alone. -/
theorem Link.surface_post (l : Link) (payload : String) :
    ((l.post .surface payload).getD l).surface = l.surface := by
  simp only [Link.post]
  split <;> rfl

theorem SurfaceBridge.surface_signalReady (s : SurfaceBridge) (l : Link) :
    (s.signalReady l).2.1.surface = l.surface := by
  have hpost := Link.surface_post l SurfaceMessage.current.encode
  unfold signalReady
  split
  · rfl
  · split
    · rename_i l' hl'
      rw [hl'] at hpost
      exact hpost
    · rfl

namespace Exchange

variable {κ σ : Type}

/-- The messages sent. -/
def sent (x : Exchange κ σ) : List RenderMessage := x.events.filterMap message?

/-- The texts posted to the surface. -/
def posted (x : Exchange κ σ) : List String := x.events.filterMap posted?

/-- The texts taken by pumps of the surface. -/
def taken (x : Exchange κ σ) : List String := x.events.filterMap taken?

section Events

variable {x y : Exchange κ σ} {es : List ExchangeEvent}

theorem sent_of_events (h : y.events = x.events ++ es) :
    y.sent = x.sent ++ es.filterMap message? := by
  rw [sent, h, List.filterMap_append, sent]

theorem posted_of_events (h : y.events = x.events ++ es) :
    y.posted = x.posted ++ es.filterMap posted? := by
  rw [posted, h, List.filterMap_append, posted]

theorem taken_of_events (h : y.events = x.events ++ es) :
    y.taken = x.taken ++ es.filterMap taken? := by
  rw [taken, h, List.filterMap_append, taken]

end Events

/-- Two fresh ends; the handler's state is given. -/
def start (st : σ) : Exchange κ σ := ⟨.fresh, {}, {}, st, []⟩

/-- The exchange after an operation of the controller's end that starts with some events.  Posted is
what the surface's inbox holds beyond what it held before. -/
def afterHost {α : Type} (x : Exchange κ σ) (first : List ExchangeEvent) (s : HostStep κ α) :
    Exchange κ σ :=
  { x with
    host := s.bridge
    link := s.link
    events := x.events ++
      (first ++ (s.link.surface.unread.drop x.link.surface.unread.length).map .posted) }

/-- Handle texts from the controller's inbox one by one until one fails, and note what is posted
after each of them. -/
def hear (x : Exchange κ σ) : List String → Exchange κ σ
  | [] => x
  | p :: ps =>
    let s := (x.host.handlePayload (x.link.setInbox .host { x.link.host with unread := ps }) p).value
    match s.result with
    | .error _ => x.afterHost [.heard p] s
    | .ok _ => (x.afterHost [.heard p] s).hear ps

/-- Texts are handled one by one in a pump of the controller's end. -/
theorem hear_eq (x : Exchange κ σ) (ps : List String) :
    { x with
      host := (x.host.handleAll x.link ps).value.bridge
      link := (x.host.handleAll x.link ps).value.link
      events := (x.hear ps).events } = x.hear ps := by
  induction ps generalizing x with
  | nil => rfl
  | cons p ps ih =>
    simp only [hear, HostBridge.handleAll, Logged.value_bind]
    generalize (x.host.handlePayload _ p).value = s
    cases hs : s.result with
    | error e => rfl
    | ok n => exact ih (x.afterHost [.heard p] s)

/-- One operation; an end that is gone does nothing any more. -/
def step (handle : σ → RenderMessage → Logged σ) (x : Exchange κ σ) : ExchangeOp κ → Exchange κ σ
  | .send m =>
    if x.link.host.isOpen then x.afterHost [.sent m] (x.host.send x.link m).value else x
  | .onReady k => if x.link.host.isOpen then x.afterHost [] (x.host.onReady x.link k) else x
  | .hostPump =>
    if x.link.host.isOpen then
      let s := (x.host.pump x.link).value
      { x with host := s.bridge, link := s.link, events := (x.hear x.link.host.unread).events }
    else x
  | .hostLeave => { x with link := x.link.close .host }
  | .signalReady =>
    if x.link.surface.isOpen then
      let s := x.surface.signalReady x.link
      { x with surface := s.1, link := s.2.1 }
    else x
  | .attach => if x.link.surface.isOpen then { x with surface := x.surface.attach } else x
  | .surfacePump =>
    if x.link.surface.isOpen then
      let s := (x.surface.pump x.link handle x.handler).value
      let count := x.link.surface.unread.length - s.1.surface.unread.length
      { x with
        link := s.1
        handler := s.2.1
        events := x.events ++ (x.link.surface.unread.take count).map .taken }
    else x
  | .surfacePost payload =>
    if x.link.surface.isOpen then { x with link := (x.link.post .surface payload).getD x.link }
    else x
  | .surfaceLeave => { x with link := x.link.close .surface }

/-- An exchange between fresh ends. -/
def run (handle : σ → RenderMessage → Logged σ) (st : σ) (ops : List (ExchangeOp κ)) :
    Exchange κ σ :=
  ops.foldl (step handle) (start st)

/-! ## Where the messages are -/

/-- What holds in every exchange. -/
structure Orderly (handle : σ → RenderMessage → Logged σ) (st : σ) (x : Exchange κ σ) : Prop where
  /-- Before the first text is posted the controller has heard an announcement. -/
  posted_heard : ∀ pre payload post, x.events = pre ++ .posted payload :: post →
    ∃ q, .heard q ∈ pre ∧ Announces q
  /-- A controller that is ready has heard an announcement. -/
  ready_heard : x.host.ready = true → ∃ q, .heard q ∈ x.events ∧ Announces q
  /-- What was sent has been posted or waits, in this order. -/
  sent_eq : ∃ ms, x.sent = ms ++ x.host.backlog ∧ x.posted = ms.map RenderMessage.encode
  /-- A controller that is ready keeps nothing back from a surface that is there. -/
  drained : x.host.ready = true → x.link.surface.isOpen = true → x.host.backlog = []
  /-- What was posted has been taken, waits at the surface, or is gone with it, in this order. -/
  posted_eq : ∃ waiting, x.posted = x.taken ++ waiting ∧
    (x.link.surface.isOpen = true → x.link.surface.unread = waiting)
  /-- The handler has seen the accepted ones of the texts taken. -/
  handled : x.handler =
    (SurfaceBridge.accepted x.taken).foldl (fun st m => (handle st m).value) st

section Invariant

variable {handle : σ → RenderMessage → Logged σ} {st : σ} {x : Exchange κ σ}

theorem orderly_start (handle : σ → RenderMessage → Logged σ) (st : σ) :
    (start st : Exchange κ σ).Orderly handle st where
  posted_heard := by
    intro pre payload post h
    simp [start] at h
  ready_heard := by simp [start]
  sent_eq := ⟨[], rfl, rfl⟩
  drained := fun _ _ => rfl
  posted_eq := ⟨[], rfl, fun _ => rfl⟩
  handled := rfl

section AfterHost

variable {α : Type} {first : List ExchangeEvent} {added : List RenderMessage} {announced : Prop}
  {l : Link} {s : HostStep κ α}

/-- A controller that is ready after a sound operation has heard an announcement by then. -/
theorem Orderly.heard_of_ready (h : x.Orderly handle st) (hs : s.Sound x.host l added announced)
    (hannounced : announced → ∃ q, .heard q ∈ first ∧ Announces q) (hr : s.bridge.ready = true) :
    ∃ q, .heard q ∈ x.events ++ first ∧ Announces q := by
  rcases hs.ready hr with hold | hnew
  · obtain ⟨q, hq, ha⟩ := h.ready_heard hold
    exact ⟨q, List.mem_append_left first hq, ha⟩
  · obtain ⟨q, hq, ha⟩ := hannounced hnew
    exact ⟨q, List.mem_append_right x.events hq, ha⟩

/-- A sound operation of the controller's end keeps the order. -/
theorem Orderly.afterHost (h : x.Orderly handle st) (first : List ExchangeEvent)
    (hs : s.Sound x.host l added announced) (hl : l.surface = x.link.surface)
    (hadded : first.filterMap message? = added) (hfirst : first.filterMap posted? = [])
    (htaken : first.filterMap taken? = [])
    (hannounced : announced → ∃ q, .heard q ∈ first ∧ Announces q) :
    (x.afterHost first s).Orderly handle st := by
  obtain ⟨ms, hbacklog, hsurface, hpost⟩ := hs.posts
  have hunread : s.link.surface.unread =
      x.link.surface.unread ++ ms.map RenderMessage.encode := by
    rw [hsurface, Link.unread_deliver, hl]
  have hopen : s.link.surface.isOpen = x.link.surface.isOpen := by
    rw [hsurface, Link.isOpen_deliver, hl]
  have hevents : (x.afterHost first s).events =
      x.events ++ (first ++ (ms.map RenderMessage.encode).map .posted) := by
    simp [Exchange.afterHost, hunread]
  have hsent' : (x.afterHost first s).sent = x.sent ++ added := by
    rw [sent_of_events hevents, List.filterMap_append, hadded, filterMap_message?_map_posted,
      List.append_nil]
  have hposted' : (x.afterHost first s).posted = x.posted ++ ms.map RenderMessage.encode := by
    rw [posted_of_events hevents, List.filterMap_append, hfirst, filterMap_posted?_map,
      List.nil_append]
  have htaken' : (x.afterHost first s).taken = x.taken := by
    rw [taken_of_events hevents, List.filterMap_append, htaken, filterMap_taken?_map_posted,
      List.append_nil, List.append_nil]
  have hheard := h.heard_of_ready hs hannounced
  refine ⟨?posted_heard, ?ready_heard, ?sent_eq, ?drained, ?posted_eq, ?handled⟩
  case posted_heard =>
    intro pre payload post heq
    rw [hevents] at heq
    rcases split_append heq with ⟨mid, hold, -⟩ | ⟨mid, rfl, hnew⟩
    · exact h.posted_heard pre payload mid hold
    rcases split_append hnew with ⟨mid', hbad, -⟩ | ⟨mid', rfl, hlast⟩
    · rw [hbad] at hfirst
      simp [posted?] at hfirst
    · -- Something is posted now, so the controller is ready.
      have hne : ms ≠ [] := by
        rintro rfl
        simp at hlast
      obtain ⟨q, hq, ha⟩ := hheard (hpost hne).2
      refine ⟨q, ?_, ha⟩
      rw [← List.append_assoc]
      exact List.mem_append_left mid' hq
  case ready_heard =>
    intro hr
    obtain ⟨q, hq, ha⟩ := hheard hr
    refine ⟨q, ?_, ha⟩
    rw [hevents, ← List.append_assoc]
    exact List.mem_append_left _ hq
  case sent_eq =>
    obtain ⟨front, hsent, hposted⟩ := h.sent_eq
    refine ⟨front ++ ms, ?_, ?_⟩
    · calc (x.afterHost first s).sent = front ++ (x.host.backlog ++ added) := by
            rw [hsent', hsent, List.append_assoc]
        _ = front ++ ms ++ s.bridge.backlog := by rw [hbacklog, List.append_assoc]
    · rw [hposted', hposted, List.map_append]
  case drained =>
    intro hr ho
    apply hs.drained
    · intro hr' ho'
      exact h.drained hr' (hl ▸ ho')
    · exact hr
    · rw [hl, ← hopen]
      exact ho
  case posted_eq =>
    obtain ⟨waiting, hposted, hwaiting⟩ := h.posted_eq
    refine ⟨waiting ++ ms.map RenderMessage.encode, ?_, ?_⟩
    · rw [hposted', htaken', hposted, List.append_assoc]
    · intro ho
      exact hunread.trans (by rw [hwaiting (hopen ▸ ho)])
  case handled =>
    rw [htaken']
    exact h.handled

end AfterHost

/-- Changes that leave the surface's inbox alone, or let the surface go, keep the order. -/
theorem Orderly.of_link (h : x.Orderly handle st) {l : Link} (surface : SurfaceBridge)
    (hl : l.surface = x.link.surface ∨ l.surface.isOpen = false) :
    Orderly handle st { x with link := l, surface := surface } := by
  refine ⟨h.posted_heard, h.ready_heard, h.sent_eq, ?_, ?_, h.handled⟩
  · intro hr ho
    rcases hl with hl | hl
    · exact h.drained hr (hl ▸ ho)
    · exact absurd ho (by simp [hl])
  · obtain ⟨waiting, hposted, hwaiting⟩ := h.posted_eq
    refine ⟨waiting, hposted, ?_⟩
    intro ho
    rcases hl with hl | hl
    · exact (congrArg Inbox.unread hl).trans (hwaiting (hl ▸ ho))
    · exact absurd ho (by simp [hl])

theorem Orderly.hear (h : x.Orderly handle st) (ps : List String) :
    (x.hear ps).Orderly handle st := by
  induction ps generalizing x with
  | nil => exact h
  | cons p ps ih =>
    have hs := HostBridge.sound_handlePayload x.host
      (x.link.setInbox .host { x.link.host with unread := ps }) p
    have hafter := h.afterHost [.heard p] hs rfl rfl rfl rfl
      (fun ha => ⟨p, List.mem_singleton_self _, ha⟩)
    rw [Exchange.hear]
    dsimp only
    split
    · exact hafter
    · exact ih hafter

/-- A pump without handler does nothing. -/
theorem step_surfacePump_of_not_attached (handle : σ → RenderMessage → Logged σ)
    (hattached : x.surface.attached = false) : x.step handle .surfacePump = x := by
  simp [step, SurfaceBridge.pump, hattached]

/-- A pump with a handler takes everything that waits, and the handler sees what is accepted. -/
theorem step_surfacePump_of_attached (handle : σ → RenderMessage → Logged σ)
    (hopen : x.link.surface.isOpen = true) (hattached : x.surface.attached = true) :
    x.step handle .surfacePump =
      { x with
        link := x.link.setInbox .surface { x.link.surface with unread := [] }
        handler := (SurfaceBridge.accepted x.link.surface.unread).foldl
          (fun st m => (handle st m).value) x.handler
        events := x.events ++ x.link.surface.unread.map .taken } := by
  simp [step, hopen, SurfaceBridge.pump_value hattached, Link.setInbox]

theorem Orderly.surfacePump (h : x.Orderly handle st) (hopen : x.link.surface.isOpen = true)
    (hattached : x.surface.attached = true) : (x.step handle .surfacePump).Orderly handle st := by
  have hevents : (x.step handle .surfacePump).events =
      x.events ++ x.link.surface.unread.map .taken := by
    rw [step_surfacePump_of_attached handle hopen hattached]
  have hsent : (x.step handle .surfacePump).sent = x.sent := by
    rw [sent_of_events hevents, filterMap_message?_map_taken, List.append_nil]
  have hposted : (x.step handle .surfacePump).posted = x.posted := by
    rw [posted_of_events hevents, filterMap_posted?_map_taken, List.append_nil]
  have htaken : (x.step handle .surfacePump).taken = x.taken ++ x.link.surface.unread := by
    rw [taken_of_events hevents, filterMap_taken?_map]
  rw [step_surfacePump_of_attached handle hopen hattached] at *
  refine ⟨?posted_heard, ?ready_heard, ?sent_eq, h.drained, ?posted_eq, ?handled⟩
  case posted_heard =>
    intro pre payload post heq
    rcases split_append heq with ⟨mid, hold, -⟩ | ⟨mid, -, hnew⟩
    · exact h.posted_heard pre payload mid hold
    · have hmem : ExchangeEvent.posted payload ∈ x.link.surface.unread.map .taken := by
        rw [hnew]
        exact List.mem_append_right mid List.mem_cons_self
      simp at hmem
  case ready_heard =>
    intro hr
    obtain ⟨q, hq, ha⟩ := h.ready_heard hr
    exact ⟨q, List.mem_append_left _ hq, ha⟩
  case sent_eq =>
    rw [hsent, hposted]
    exact h.sent_eq
  case posted_eq =>
    obtain ⟨waiting, hwait, hunread⟩ := h.posted_eq
    refine ⟨[], ?_, fun _ => rfl⟩
    rw [hposted, htaken, hwait, hunread hopen, List.append_nil]
  case handled =>
    rw [htaken, SurfaceBridge.accepted_append, List.foldl_append, ← h.handled]

theorem Orderly.step (h : x.Orderly handle st) (op : ExchangeOp κ) :
    (x.step handle op).Orderly handle st := by
  have hkeep {p : Prop} [Decidable p] {y : Exchange κ σ} (hy : y.Orderly handle st) :
      (if p then y else x).Orderly handle st := by
    split
    · exact hy
    · exact h
  cases op with
  | send m =>
    exact hkeep (h.afterHost [.sent m] (HostBridge.sound_send x.host x.link m) rfl rfl rfl rfl nofun)
  | onReady k =>
    exact hkeep (h.afterHost [] (HostBridge.sound_onReady x.host x.link k) rfl rfl rfl rfl nofun)
  | hostPump =>
    refine hkeep ?_
    rw [HostBridge.pump, hear_eq]
    exact h.hear x.link.host.unread
  | hostLeave => exact h.of_link x.surface (.inl rfl)
  | signalReady => exact hkeep (h.of_link _ (.inl (SurfaceBridge.surface_signalReady x.surface x.link)))
  | attach => exact hkeep (h.of_link _ (.inl rfl))
  | surfacePump =>
    by_cases hopen : x.link.surface.isOpen = true
    · by_cases hattached : x.surface.attached = true
      · exact h.surfacePump hopen hattached
      · rw [step_surfacePump_of_not_attached handle (by simpa using hattached)]
        exact h
    · simp only [Exchange.step, if_neg hopen]
      exact h
  | surfacePost payload => exact hkeep (h.of_link _ (.inl (Link.surface_post x.link payload)))
  | surfaceLeave => exact h.of_link x.surface (.inr rfl)

/-- Every exchange is orderly. -/
theorem run_orderly (handle : σ → RenderMessage → Logged σ) (st : σ) (ops : List (ExchangeOp κ)) :
    (run handle st ops).Orderly handle st := by
  have hfold (y : Exchange κ σ) (hy : y.Orderly handle st) :
      (ops.foldl (Exchange.step handle) y).Orderly handle st := by
    induction ops generalizing y with
    | nil => exact hy
    | cons op ops ih => exact ih (y.step handle op) (hy.step op)
  exact hfold (start st) (orderly_start handle st)

end Invariant

/-! ## After the surface has gone -/

section Gone

variable {handle : σ → RenderMessage → Logged σ} {x y : Exchange κ σ}

/-- From one exchange to another the surface stays away and nothing is posted. -/
structure Stalled (x y : Exchange κ σ) : Prop where
  gone : y.link.surface.isOpen = false
  events : ∃ es, y.events = x.events ++ es ∧ es.filterMap posted? = []

theorem Stalled.refl (hgone : x.link.surface.isOpen = false) : x.Stalled x :=
  ⟨hgone, [], (List.append_nil _).symm, rfl⟩

theorem Stalled.trans {z : Exchange κ σ} (hxy : x.Stalled y) (hyz : y.Stalled z) : x.Stalled z := by
  obtain ⟨es, hes, hnone⟩ := hxy.events
  obtain ⟨fs, hfs, hnone'⟩ := hyz.events
  refine ⟨hyz.gone, es ++ fs, ?_, ?_⟩
  · rw [hfs, hes, List.append_assoc]
  · rw [List.filterMap_append, hnone, hnone', List.append_nil]

theorem stalled_afterHost {α : Type} (hgone : x.link.surface.isOpen = false)
    {first : List ExchangeEvent} {added : List RenderMessage} {announced : Prop} {l : Link}
    {s : HostStep κ α} (hs : s.Sound x.host l added announced) (hl : l.surface = x.link.surface)
    (hfirst : first.filterMap posted? = []) : x.Stalled (x.afterHost first s) := by
  obtain ⟨ms, -, hsurface, hpost⟩ := hs.posts
  have hnil : ms = [] := by
    by_contra hne
    have hopen := (hpost hne).1
    rw [hl, hgone] at hopen
    cases hopen
  rw [hnil, List.map_nil, Link.deliver_nil, hl] at hsurface
  refine ⟨?_, first, ?_, hfirst⟩
  · exact (congrArg Inbox.isOpen hsurface).trans hgone
  · simp [afterHost, hsurface]

theorem stalled_hear (hgone : x.link.surface.isOpen = false) (ps : List String) :
    x.Stalled (x.hear ps) := by
  induction ps generalizing x with
  | nil => exact .refl hgone
  | cons p ps ih =>
    have hs := HostBridge.sound_handlePayload x.host
      (x.link.setInbox .host { x.link.host with unread := ps }) p
    have hfirst : x.Stalled (x.afterHost [.heard p] _) := stalled_afterHost hgone hs rfl rfl
    rw [hear]
    dsimp only
    split
    · exact hfirst
    · exact hfirst.trans (ih hfirst.gone)

theorem stalled_step (hgone : x.link.surface.isOpen = false) (op : ExchangeOp κ) :
    x.Stalled (x.step handle op) := by
  have hkeep {p : Prop} [Decidable p] {y : Exchange κ σ} (hy : x.Stalled y) :
      x.Stalled (if p then y else x) := by
    split
    · exact hy
    · exact .refl hgone
  have hidle (op : ExchangeOp κ) (hop : x.step handle op = x) : x.Stalled (x.step handle op) := by
    rw [hop]
    exact .refl hgone
  cases op with
  | send m => exact hkeep (stalled_afterHost hgone (HostBridge.sound_send x.host x.link m) rfl rfl)
  | onReady k =>
    exact hkeep (stalled_afterHost hgone (HostBridge.sound_onReady x.host x.link k) rfl rfl)
  | hostPump =>
    refine hkeep ?_
    rw [HostBridge.pump, hear_eq]
    exact stalled_hear hgone x.link.host.unread
  | hostLeave => exact ⟨hgone, [], (List.append_nil _).symm, rfl⟩
  | signalReady => exact hidle _ (by simp [step, hgone])
  | attach => exact hidle _ (by simp [step, hgone])
  | surfacePump => exact hidle _ (by simp [step, hgone])
  | surfacePost payload => exact hidle _ (by simp [step, hgone])
  | surfaceLeave => exact ⟨rfl, [], (List.append_nil _).symm, rfl⟩

theorem stalled_foldl (hgone : x.link.surface.isOpen = false) (ops : List (ExchangeOp κ)) :
    x.Stalled (ops.foldl (step handle) x) := by
  induction ops generalizing x with
  | nil => exact .refl hgone
  | cons op ops ih =>
    have hstep : x.Stalled (x.step handle op) := stalled_step hgone op
    exact hstep.trans (ih hstep.gone)

/-- While nothing is posted the backlog only grows, by what is sent. -/
theorem Stalled.backlog_eq {st : σ} (h : x.Stalled y) (hx : x.Orderly handle st)
    (hy : y.Orderly handle st) :
    ∃ es, y.events = x.events ++ es ∧ es.filterMap posted? = [] ∧
      y.host.backlog = x.host.backlog ++ es.filterMap message? := by
  obtain ⟨es, hes, hnone⟩ := h.events
  obtain ⟨ms, hsent, hposted⟩ := hx.sent_eq
  obtain ⟨ms', hsent', hposted'⟩ := hy.sent_eq
  refine ⟨es, hes, hnone, ?_⟩
  have hsame : y.posted = x.posted := by
    rw [posted_of_events hes, hnone, List.append_nil]
  have hlength : ms'.length = ms.length := by
    have hlen := congrArg List.length (hposted'.symm.trans (hsame.trans hposted))
    simpa using hlen
  have hmore : ms' ++ y.host.backlog = ms ++ (x.host.backlog ++ es.filterMap message?) := by
    rw [← hsent', ← List.append_assoc, ← hsent, sent_of_events hes]
  exact (List.append_inj hmore hlength).2

end Gone

/-! ## The whole way -/

/-- In every exchange, whatever the handler does: (1) nothing is posted to the surface before the
controller has heard an announcement of the current version; (2) what was sent is what was posted,
followed by what waits; (3) a controller that is ready keeps nothing back from a surface that is
there, and once the surface has gone the backlog keeps what is not posted, in order, and sending fails
if the controller is ready; (4) the texts taken by the surface are the first ones posted, the others
wait, and the handler has seen those messages among them whose numbers are finite, in order and each
of them once; a pump without handler changes nothing. -/
theorem messages_pass_in_order_once (handle : σ → RenderMessage → Logged σ) (st : σ)
    (ops : List (ExchangeOp κ)) :
    let x := run handle st ops
    (∀ pre payload post, x.events = pre ++ .posted payload :: post →
      ∃ q, .heard q ∈ pre ∧ SurfaceMessage.decode q = .ok .current) ∧
    ∃ (ms : List RenderMessage) (count : Nat),
      (x.sent = ms ++ x.host.backlog ∧ x.posted = ms.map RenderMessage.encode) ∧
      (x.host.ready = true → x.link.surface.isOpen = true → x.host.backlog = []) ∧
      (x.link.surface.isOpen = false →
        (∀ rest, ∃ es, (run handle st (ops ++ rest)).events = x.events ++ es ∧
          es.filterMap posted? = [] ∧
          (run handle st (ops ++ rest)).host.backlog =
            x.host.backlog ++ es.filterMap message?) ∧
        (x.host.ready = true →
          ∀ m, (x.host.send x.link m).value.result = .error .disconnected)) ∧
      x.taken = (ms.take count).map RenderMessage.encode ∧
      (x.link.surface.isOpen = true →
        x.link.surface.unread = (ms.drop count).map RenderMessage.encode) ∧
      x.handler = ((ms.take count).filter fun m => AllFinite m.model.numbers).foldl
        (fun st m => (handle st m).value) st ∧
      (x.surface.attached = false → x.step handle .surfacePump = x) := by
  intro x
  have h : x.Orderly handle st := run_orderly handle st ops
  obtain ⟨ms, hsent, hposted⟩ := h.sent_eq
  obtain ⟨waiting, hwait, hunread⟩ := h.posted_eq
  -- The texts taken are a first part of those posted, and so are their messages.
  have hsplit : ms.map RenderMessage.encode = x.taken ++ waiting := hposted.symm.trans hwait
  have htaken : x.taken = (ms.take x.taken.length).map RenderMessage.encode := by
    rw [List.map_take, hsplit, List.take_left]
  have hwaiting : waiting = (ms.drop x.taken.length).map RenderMessage.encode := by
    rw [List.map_drop, hsplit, List.drop_left]
  refine ⟨h.posted_heard, ms, x.taken.length, ⟨hsent, hposted⟩, h.drained, ?_, htaken, ?_, ?_, ?_⟩
  · intro hgone
    constructor
    · intro rest
      have hrest : (run handle st (ops ++ rest)) = rest.foldl (step handle) x := by
        rw [run, List.foldl_append]
        rfl
      have hstalled : x.Stalled (run handle st (ops ++ rest)) := by
        rw [hrest]
        exact stalled_foldl hgone rest
      exact hstalled.backlog_eq h (run_orderly handle st (ops ++ rest))
    · intro hready m
      rw [HostBridge.send_result, if_pos ⟨hready, hgone⟩]
  · intro hopen
    rw [hunread hopen]
    exact hwaiting
  · rw [h.handled, ← SurfaceBridge.accepted_map_encode, ← htaken]
  · exact step_surfacePump_of_not_attached handle

end Exchange
end ModelPreview
