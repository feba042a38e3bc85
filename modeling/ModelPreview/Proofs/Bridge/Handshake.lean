import Mathlib
import ModelPreview.Proofs.Bridge.Pumping

/-!
# The handshake

The surface announces itself once, and the controller's end is ready from the first announcement of
the current version that it hears.  Callbacks wait for the announcement and then run in the order in
which they were registered, whether or not the pump that hears it ends early.

Main definitions:

- `HostBridge.Runs`: how callbacks are added and run between two states of the controller's end.
- `Exchange.Listens`: what the controller's end hears between two states of an exchange.
- `Exchange.gathered`: what is noted along a run, operation by operation.

Main results:

- `Exchange.listens_foldl`: an exchange is ready exactly if it has heard an announcement.
- `Exchange.runs_foldl`: the callbacks of an exchange.
- `Exchange.announced_foldl`: the announcements of an exchange.
- `Exchange.ready_handshake`: readiness, refused versions, callbacks and announcements together.
-/

namespace ModelPreview

/-! ## Callbacks -/

namespace HostBridge

variable {κ : Type} {b b' b'' : HostBridge κ} {l : Link} {payload : String}

/-- No callback waits once the surface has announced itself. -/
def Prompt (b : HostBridge κ) : Prop := b.ready = true → b.waiting = []

/-- From one state of the controller's end to another some callbacks are added and some run: they run
in the order in which they were added and only once the surface has announced itself, which it does
for good, and from then on none waits. -/
structure Runs (b b' : HostBridge κ) (added fired : List κ) : Prop where
  prompt : b.Prompt → b'.Prompt
  callbacks : b.Prompt → b.waiting ++ added = fired ++ b'.waiting
  ready : b.ready = true → b'.ready = true
  idle : b'.ready = false → fired = []

/-- What leaves readiness and callbacks alone runs nothing. -/
theorem runs_of_eq (hready : b'.ready = b.ready) (hwaiting : b'.waiting = b.waiting) :
    b.Runs b' [] [] where
  prompt hprompt h := hwaiting.trans (hprompt (hready ▸ h))
  callbacks _ := by simp [hwaiting]
  ready h := hready.trans h
  idle _ := rfl

theorem Runs.trans {added added' fired fired' : List κ} (h : b.Runs b' added fired)
    (h' : b'.Runs b'' added' fired') : b.Runs b'' (added ++ added') (fired ++ fired') where
  prompt hprompt := h'.prompt (h.prompt hprompt)
  callbacks hprompt := by
    calc b.waiting ++ (added ++ added') = fired ++ (b'.waiting ++ added') := by
          rw [← List.append_assoc, h.callbacks hprompt, List.append_assoc]
      _ = fired ++ fired' ++ b''.waiting := by
          rw [h'.callbacks (h.prompt hprompt), List.append_assoc]
  ready hr := h'.ready (h.ready hr)
  idle hr := by
    have hr' : b'.ready = false := by
      by_contra hne
      have hlost := h'.ready (by simpa using hne)
      rw [hr] at hlost
      cases hlost
    rw [h.idle hr', h'.idle hr, List.append_nil]

theorem runs_send (b : HostBridge κ) (l : Link) (m : RenderMessage) :
    b.Runs (b.send l m).value.bridge [] (b.send l m).value.fired := by
  rw [send_value]
  split
  · rw [flush_eq]
    split
    · exact runs_of_eq rfl rfl
    · exact runs_of_eq rfl rfl
  · exact runs_of_eq rfl rfl

/-- A callback runs at once if the surface has announced itself, and waits otherwise. -/
theorem runs_onReady (b : HostBridge κ) (l : Link) (k : κ) :
    b.Runs (b.onReady l k).bridge [k] (b.onReady l k).fired := by
  by_cases hready : b.ready = true
  · rw [onReady, if_pos hready]
    refine ⟨id, ?_, id, ?_⟩
    · intro hprompt
      rw [hprompt hready, List.nil_append, List.append_nil]
    · intro hr
      rw [hready] at hr
      cases hr
  · rw [onReady, if_neg hready]
    exact ⟨fun _ h => absurd h hready, fun _ => rfl, id, fun _ => rfl⟩

/-- The first announcement runs everything that waits. -/
theorem runs_of_released (hready : b'.ready = true) (hwaiting : b'.waiting = []) :
    b.Runs b' [] b.waiting where
  prompt _ _ := hwaiting
  callbacks _ := by rw [hwaiting]
  ready _ := hready
  idle h := by
    rw [hready] at h
    cases h

theorem Hears.runs {s : HostStep κ Nat} (h : b.Hears l payload s) : b.Runs s.bridge [] s.fired := by
  cases h with
  | skipped h => exact runs_of_eq rfl rfl
  | refused h hversion => exact runs_of_eq rfl rfl
  | repeated h hready => exact runs_of_eq rfl rfl
  | released h hready hposted => exact runs_of_released rfl rfl
  | stranded h hready hgone hbacklog => exact runs_of_released rfl rfl

theorem runs_handleAll (b : HostBridge κ) (l : Link) (ps : List String) :
    b.Runs (b.handleAll l ps).value.bridge [] (b.handleAll l ps).value.fired := by
  induction ps generalizing b l with
  | nil => exact runs_of_eq rfl rfl
  | cons p ps ih =>
    have hfirst := (hears_handlePayload b (l.setInbox .host { l.host with unread := ps }) p).runs
    simp only [handleAll, Logged.value_bind]
    generalize (b.handlePayload (l.setInbox .host { l.host with unread := ps }) p).value = s
      at hfirst
    cases s.result with
    | error e => exact hfirst
    | ok n => exact hfirst.trans (ih s.bridge s.link)

end HostBridge

/-! ## What an exchange hears -/

/-- The text that an event takes from the controller's inbox. -/
def ExchangeEvent.heard? : ExchangeEvent → Option String
  | heard payload => some payload
  | _ => none

theorem ExchangeEvent.filterMap_heard?_map_posted (ps : List String) :
    (ps.map posted).filterMap heard? = [] := by
  simp [heard?]

theorem ExchangeEvent.filterMap_heard?_map_taken (ps : List String) :
    (ps.map taken).filterMap heard? = [] := by
  simp [heard?]

namespace Exchange

variable {κ σ : Type} {x y z : Exchange κ σ} (handle : σ → RenderMessage → Logged σ)

/-- The texts that pumps of the controller's end have taken. -/
def heard (x : Exchange κ σ) : List String := x.events.filterMap ExchangeEvent.heard?

theorem heard_afterHost {α : Type} (first : List ExchangeEvent) (s : HostStep κ α) :
    (x.afterHost first s).heard = x.heard ++ first.filterMap ExchangeEvent.heard? := by
  rw [heard, afterHost, List.filterMap_append, List.filterMap_append,
    ExchangeEvent.filterMap_heard?_map_posted, List.append_nil]
  rfl

/-- From one exchange to another the controller's end hears texts, and it is ready exactly if it was
before or one of them announces the surface. -/
structure Listens (x y : Exchange κ σ) (ps : List String) : Prop where
  heard : y.heard = x.heard ++ ps
  ready : y.host.ready = true ↔ x.host.ready = true ∨ ∃ q ∈ ps, Announces q

theorem listens_of_eq (hevents : y.heard = x.heard) (hready : y.host.ready = x.host.ready) :
    x.Listens y [] :=
  ⟨by simp [hevents], by simp [hready]⟩

theorem Listens.trans {ps qs : List String} (h : x.Listens y ps) (h' : y.Listens z qs) :
    x.Listens z (ps ++ qs) where
  heard := by rw [h'.heard, h.heard, List.append_assoc]
  ready := by
    rw [h'.ready, h.ready, or_assoc]
    simp only [List.mem_append, or_and_right, exists_or]

/-- An operation that hears nothing and comes without an announcement does not make the controller's
end ready. -/
theorem listens_afterHost {α : Type} {first : List ExchangeEvent} {added : List RenderMessage}
    {l : Link} {s : HostStep κ α} {registered : List κ} (hs : s.Sound x.host l added False)
    (hruns : x.host.Runs s.bridge registered s.fired)
    (hfirst : first.filterMap ExchangeEvent.heard? = []) : x.Listens (x.afterHost first s) [] := by
  refine ⟨by rw [heard_afterHost, hfirst], ?_⟩
  constructor
  · intro hr
    exact .inl ((hs.ready hr).resolve_right id)
  · rintro (hr | ⟨q, hq, -⟩)
    · exact hruns.ready hr
    · cases hq

/-- What is heard one by one in a pump is a first part of the inbox, and the rest stays there. -/
theorem listens_hear {ps : List String} (hunread : x.link.host.unread = ps) :
    ∃ qs, x.Listens (x.hear ps) qs ∧ ps = qs ++ (x.hear ps).link.host.unread := by
  induction ps generalizing x with
  | nil => exact ⟨[], listens_of_eq rfl rfl, by rw [hear, hunread, List.append_nil]⟩
  | cons p ps ih =>
    have hs := HostBridge.hears_handlePayload x.host
      (x.link.setInbox .host { x.link.host with unread := ps }) p
    rw [hear]
    dsimp only
    generalize (x.host.handlePayload (x.link.setInbox .host { x.link.host with unread := ps })
      p).value = s at hs
    have hfirst : x.Listens (x.afterHost [.heard p] s) [p] :=
      ⟨heard_afterHost _ s, hs.ready_iff.trans (by simp)⟩
    have hrest : (x.afterHost [.heard p] s).link.host.unread = ps := hs.unread
    split
    · exact ⟨[p], hfirst, by rw [hrest, List.singleton_append]⟩
    · obtain ⟨qs, hqs, hsplit⟩ := ih hrest
      refine ⟨p :: qs, hfirst.trans hqs, ?_⟩
      rw [List.cons_append, ← hsplit]

theorem listens_hostPump (x : Exchange κ σ) :
    ∃ ps, x.Listens (x.step handle .hostPump) ps ∧
      x.link.host.unread = ps ++ (x.step handle .hostPump).link.host.unread := by
  by_cases hopen : x.link.host.isOpen = true
  · have hstep : x.step handle .hostPump = x.hear x.link.host.unread := by
      rw [← hear_eq]
      simp only [step, if_pos hopen, HostBridge.pump]
    rw [hstep]
    exact listens_hear rfl
  · simp only [step, if_neg hopen]
    exact ⟨[], listens_of_eq rfl rfl, rfl⟩

/-- Only pumps of the controller's end hear anything. -/
theorem listens_of_ne_hostPump (x : Exchange κ σ) {op : ExchangeOp κ} (hop : op ≠ .hostPump) :
    x.Listens (x.step handle op) [] := by
  have hkeep {p : Prop} [Decidable p] {y : Exchange κ σ} (hy : x.Listens y []) :
      x.Listens (if p then y else x) [] := by
    split
    · exact hy
    · exact listens_of_eq rfl rfl
  cases op with
  | send m =>
    exact hkeep (listens_afterHost (x.host.sound_send x.link m) (x.host.runs_send x.link m) rfl)
  | onReady k =>
    exact hkeep (listens_afterHost (x.host.sound_onReady x.link k) (x.host.runs_onReady x.link k) rfl)
  | hostPump => exact absurd rfl hop
  | hostLeave => exact listens_of_eq rfl rfl
  | signalReady => exact hkeep (listens_of_eq rfl rfl)
  | attach => exact hkeep (listens_of_eq rfl rfl)
  | surfacePump =>
    refine hkeep (listens_of_eq ?_ rfl)
    rw [heard, List.filterMap_append, ExchangeEvent.filterMap_heard?_map_taken, List.append_nil]
    rfl
  | surfacePost payload => exact hkeep (listens_of_eq rfl rfl)
  | surfaceLeave => exact listens_of_eq rfl rfl

theorem listens_foldl (x : Exchange κ σ) (ops : List (ExchangeOp κ)) :
    ∃ ps, x.Listens (ops.foldl (step handle) x) ps := by
  induction ops generalizing x with
  | nil => exact ⟨[], listens_of_eq rfl rfl⟩
  | cons op ops ih =>
    have hstep : ∃ ps, x.Listens (x.step handle op) ps := by
      by_cases hop : op = .hostPump
      · obtain ⟨ps, hps, -⟩ := listens_hostPump handle x
        exact ⟨ps, hop ▸ hps⟩
      · exact ⟨[], listens_of_ne_hostPump handle x hop⟩
    obtain ⟨ps, hps⟩ := hstep
    obtain ⟨qs, hqs⟩ := ih (x.step handle op)
    exact ⟨ps ++ qs, hps.trans hqs⟩

/-! ## What is gathered along a run -/

/-- What is noted along a run, operation by operation. -/
def gathered {α : Type} (note : Exchange κ σ → ExchangeOp κ → List α) (x : Exchange κ σ) :
    List (ExchangeOp κ) → List α
  | [] => []
  | op :: ops => note x op ++ gathered note (x.step handle op) ops

/-- The callback that an operation registers. -/
def registeredBy (x : Exchange κ σ) : ExchangeOp κ → List κ
  | .onReady k => if x.link.host.isOpen then [k] else []
  | _ => []

/-- The callbacks that run in an operation. -/
def firedBy (x : Exchange κ σ) : ExchangeOp κ → List κ
  | .send m => if x.link.host.isOpen then (x.host.send x.link m).value.fired else []
  | .onReady k => if x.link.host.isOpen then (x.host.onReady x.link k).fired else []
  | .hostPump => if x.link.host.isOpen then (x.host.pump x.link).value.fired else []
  | _ => []

/-- The texts that the surface posts to announce itself in an operation. -/
def announcedBy (x : Exchange κ σ) : ExchangeOp κ → List String
  | .signalReady =>
    if x.link.surface.isOpen then
      (x.surface.signalReady x.link).2.1.host.unread.drop x.link.host.unread.length
    else []
  | _ => []

theorem runs_step (x : Exchange κ σ) (op : ExchangeOp κ) :
    x.host.Runs (x.step handle op).host (x.registeredBy op) (x.firedBy op) := by
  have hguard {p : Prop} [Decidable p] {y : Exchange κ σ} {added fired : List κ}
      (hy : x.host.Runs y.host added fired) :
      x.host.Runs (if p then y else x).host (if p then added else []) (if p then fired else []) := by
    split
    · exact hy
    · exact HostBridge.runs_of_eq rfl rfl
  have hidle {p : Prop} [Decidable p] {y : Exchange κ σ} (hy : y.host = x.host) :
      x.host.Runs (if p then y else x).host [] [] := by
    have hsame : (if p then y else x).host = x.host := by
      split
      · exact hy
      · rfl
    rw [hsame]
    exact HostBridge.runs_of_eq rfl rfl
  cases op with
  | send m =>
    have hsend := hguard (p := x.link.host.isOpen = true)
      (y := x.afterHost [.sent m] (x.host.send x.link m).value) (x.host.runs_send x.link m)
    rwa [ite_self] at hsend
  | onReady k => exact hguard (x.host.runs_onReady x.link k)
  | hostPump =>
    by_cases hopen : x.link.host.isOpen = true
    · simp only [step, firedBy, if_pos hopen]
      exact x.host.runs_handleAll x.link x.link.host.unread
    · simp only [step, firedBy, if_neg hopen]
      exact HostBridge.runs_of_eq rfl rfl
  | hostLeave => exact HostBridge.runs_of_eq rfl rfl
  | signalReady => exact hidle rfl
  | attach => exact hidle rfl
  | surfacePump => exact hidle rfl
  | surfacePost payload => exact hidle rfl
  | surfaceLeave => exact HostBridge.runs_of_eq rfl rfl

theorem runs_foldl (x : Exchange κ σ) (ops : List (ExchangeOp κ)) :
    x.host.Runs (ops.foldl (step handle) x).host (gathered handle registeredBy x ops)
      (gathered handle firedBy x ops) := by
  induction ops generalizing x with
  | nil => exact HostBridge.runs_of_eq rfl rfl
  | cons op ops ih => exact (runs_step handle x op).trans (ih (x.step handle op))

end Exchange

/-! ## Announcements -/

namespace SurfaceBridge

/-- What the surface posts announces the current version. -/
theorem announces_current : Announces SurfaceMessage.current.encode := by
  unfold Announces
  cbv

/-- The texts that the surface has posted to announce itself. -/
def announced (s : SurfaceBridge) : List String :=
  if s.readySent then [SurfaceMessage.current.encode] else []

theorem signalReady_eq (s : SurfaceBridge) (l : Link) :
    s.signalReady l =
      if s.readySent = true then (s, l, .ok ())
      else if l.host.isOpen = true then
        ({ s with readySent := true }, l.queued (l.host.unread ++ [SurfaceMessage.current.encode]),
          .ok ())
      else (s, l, .error .disconnected) := by
  have hpost : l.post .surface SurfaceMessage.current.encode =
      if l.host.isOpen = true then
        some (l.queued (l.host.unread ++ [SurfaceMessage.current.encode]))
      else none := rfl
  rw [signalReady, hpost]
  split
  · rfl
  · by_cases hopen : l.host.isOpen = true
    · rw [if_pos hopen, if_pos hopen]
    · rw [if_neg hopen, if_neg hopen]

/-- An attempt that fails leaves everything as it is. -/
theorem signalReady_of_error {s : SurfaceBridge} {l : Link} {e : ProtocolError}
    (h : (s.signalReady l).2.2 = .error e) :
    s.readySent = false ∧ s.signalReady l = (s, l, .error e) := by
  rw [signalReady_eq] at h ⊢
  by_cases hsent : s.readySent = true
  · rw [if_pos hsent] at h
    cases h
  · rw [if_neg hsent] at h ⊢
    refine ⟨by simpa using hsent, ?_⟩
    split at h
    · cases h
    · rename_i hgone
      rw [if_neg hgone]
      exact congrArg (s, l, ·) h

end SurfaceBridge

namespace Exchange

variable {κ σ : Type} (handle : σ → RenderMessage → Logged σ)

theorem announced_step (x : Exchange κ σ) (op : ExchangeOp κ) :
    x.surface.announced ++ x.announcedBy op = (x.step handle op).surface.announced := by
  have hidle {y : Exchange κ σ} (hy : y.surface.readySent = x.surface.readySent) :
      x.surface.announced ++ [] = y.surface.announced := by
    rw [List.append_nil, SurfaceBridge.announced, SurfaceBridge.announced, hy]
  have hkeep {p : Prop} [Decidable p] {y : Exchange κ σ}
      (hy : y.surface.readySent = x.surface.readySent) :
      x.surface.announced ++ [] = (if p then y else x).surface.announced := by
    split
    · exact hidle hy
    · exact hidle rfl
  cases op with
  | send m => exact hkeep rfl
  | onReady k => exact hkeep rfl
  | hostPump => exact hkeep rfl
  | hostLeave => exact hidle rfl
  | signalReady =>
    by_cases hopen : x.link.surface.isOpen = true
    · simp only [announcedBy, step, if_pos hopen, SurfaceBridge.signalReady_eq]
      by_cases hsent : x.surface.readySent = true
      · simp [SurfaceBridge.announced, hsent]
      · by_cases hhost : x.link.host.isOpen = true
        · simp [SurfaceBridge.announced, hsent, hhost]
        · simp [SurfaceBridge.announced, hsent, hhost]
    · simp only [announcedBy, step, if_neg hopen]
      exact hidle rfl
  | attach => exact hkeep rfl
  | surfacePump => exact hkeep rfl
  | surfacePost payload => exact hkeep rfl
  | surfaceLeave => exact hidle rfl

theorem announced_foldl (x : Exchange κ σ) (ops : List (ExchangeOp κ)) :
    x.surface.announced ++ gathered handle announcedBy x ops =
      (ops.foldl (step handle) x).surface.announced := by
  induction ops generalizing x with
  | nil => exact List.append_nil _
  | cons op ops ih => rw [gathered, ← List.append_assoc, announced_step handle x op, ih, List.foldl]

/-! ## The whole handshake -/

/-- In every exchange: (1) the controller's end is ready exactly if one of the texts that its pumps
have taken from the inbox announces a surface of the current version, and it stays ready; (2) a pump
does the same without the texts that cannot be decoded; (3) an announcement of another version that a
pump gets to ends it with that error, changes nothing at the controller's end and leaves the texts
behind it for the next pump; (4) the callbacks registered are those that have run followed by those
that wait, none has run before the controller's end is ready, the operation that makes it ready is a
pump and runs all that were registered before, also if what was held back cannot be posted, and later
ones run at once; (5) the surface has announced itself at most once, and if this fails, then nothing
has changed and the next attempt posts the announcement if the controller's end is there. -/
theorem ready_handshake (st : σ) (ops : List (ExchangeOp κ)) :
    let x := run handle st ops
    let registered := gathered handle registeredBy (start st) ops
    let fired := gathered handle firedBy (start st) ops
    let pumped := x.step handle .hostPump
    let s := (x.host.pump x.link).value
    ((x.host.ready = true ↔ ∃ q ∈ x.heard, SurfaceMessage.decode q = .ok .current) ∧
      (x.host.ready = true → ∀ rest, (run handle st (ops ++ rest)).host.ready = true) ∧
      (∃ taken, pumped.heard = x.heard ++ taken ∧
        x.link.host.unread = taken ++ pumped.link.host.unread) ∧
      ∀ op, op ≠ .hostPump → (x.step handle op).heard = x.heard) ∧
    ((x.host.pump (x.link.queued (x.link.host.unread.filter SurfaceMessage.decodes))).value =
      { s with link := s.link.queued (s.link.host.unread.filter SurfaceMessage.decodes) }) ∧
    (∀ front bad back version n, x.link.host.unread = front ++ bad :: back →
      SurfaceMessage.decode bad = .ok (.ready version) → version ≠ protocolVersion →
      let s' := (x.host.pump (x.link.queued front)).value
      s'.result = .ok n →
      s = { s' with
        link := s'.link.queued back
        result := .error (.versionMismatch protocolVersion version) }) ∧
    (registered = fired ++ x.host.waiting ∧
      (x.host.ready = false → fired = [] ∧
        ∀ op, (x.step handle op).host.ready = true → op = .hostPump ∧ x.firedBy op = registered) ∧
      (∀ front good back, x.link.host.unread = front ++ good :: back →
        (∀ q ∈ front, SurfaceMessage.decodes q = false) →
        SurfaceMessage.decode good = .ok .current → x.host.ready = false →
        x.link.surface.isOpen = false → x.host.backlog ≠ [] →
        s = { bridge := { ready := true, backlog := x.host.backlog, waiting := [] }
              link := x.link.queued back
              fired := registered
              result := .error .disconnected }) ∧
      (x.host.ready = true → x.host.waiting = [] ∧
        ∀ k, x.host.onReady x.link k = ⟨x.host, x.link, [k], .ok ()⟩)) ∧
    (gathered handle announcedBy (start st) ops =
        if x.surface.readySent = true then [SurfaceMessage.current.encode] else []) ∧
      SurfaceMessage.decode SurfaceMessage.current.encode = .ok .current ∧
      ∀ l e, (x.surface.signalReady l).2.2 = .error e →
        x.surface.signalReady l = (x.surface, l, .error e) ∧
          ∀ l' : Link, l'.host.isOpen = true →
            x.surface.signalReady l' = ({ x.surface with readySent := true },
              l'.queued (l'.host.unread ++ [SurfaceMessage.current.encode]), .ok ()) := by
  intro x registered fired pumped s
  have hruns : (start st : Exchange κ σ).host.Runs x.host registered fired :=
    runs_foldl handle (start st) ops
  have hprompt : x.host.Prompt := hruns.prompt nofun
  have hcallbacks : registered = fired ++ x.host.waiting := hruns.callbacks nofun
  have hwaiting (hready : x.host.ready = false) : x.host.waiting = registered := by
    rw [hcallbacks, hruns.idle hready, List.nil_append]
  obtain ⟨taken, hlistens, hunread⟩ := listens_hostPump handle x
  refine ⟨⟨?_, ?_, ⟨taken, hlistens.heard, hunread⟩, ?_⟩, ?_, ?_, ⟨hcallbacks, ?_, ?_, ?_⟩, ?_,
    SurfaceBridge.announces_current, ?_⟩
  · obtain ⟨ps, hps⟩ := listens_foldl handle (start st : Exchange κ σ) ops
    have hheard : x.heard = ps := hps.heard
    rw [hheard]
    exact hps.ready.trans (by simp [start, Announces])
  · intro hready rest
    rw [run, List.foldl_append]
    exact (runs_foldl handle x rest).ready hready
  · intro op hop
    rw [(listens_of_ne_hostPump handle x hop).heard, List.append_nil]
  · exact x.host.pump_filter_decodes x.link x.link.host.unread
  · intro front bad back version n hqueue hbad hversion s' hok
    have hpump := HostBridge.pump_of_refused back hok hbad hversion
    rw [← hqueue] at hpump
    exact hpump
  · intro hready
    refine ⟨hruns.idle hready, ?_⟩
    intro op hop
    have hpump : op = .hostPump := by
      by_contra hne
      rcases (listens_of_ne_hostPump handle x hne).ready.1 hop with hr | ⟨q, hq, -⟩
      · rw [hready] at hr
        cases hr
      · cases hq
    have hstep := runs_step handle x op
    have hnone : x.registeredBy op = [] := by
      rw [hpump]
      rfl
    refine ⟨hpump, ?_⟩
    calc x.firedBy op = x.firedBy op ++ (x.step handle op).host.waiting := by
          rw [hstep.prompt hprompt hop, List.append_nil]
      _ = x.host.waiting ++ x.registeredBy op := (hstep.callbacks hprompt).symm
      _ = registered := by rw [hnone, List.append_nil, hwaiting hready]
  · intro front good back hqueue hfront hgood hready hgone hbacklog
    have hpump := HostBridge.pump_of_stranded back hfront hgood hready hgone hbacklog
    rw [← hqueue, hwaiting hready] at hpump
    exact hpump
  · intro hready
    exact ⟨hprompt hready, fun k => by rw [HostBridge.onReady, if_pos hready]⟩
  · exact announced_foldl handle (start st) ops
  · intro l e hfailed
    obtain ⟨hunsent, hsame⟩ := SurfaceBridge.signalReady_of_error hfailed
    refine ⟨hsame, ?_⟩
    intro l' hopen
    rw [SurfaceBridge.signalReady_eq, if_neg (by simp [hunsent]), if_pos hopen]

end Exchange
end ModelPreview
