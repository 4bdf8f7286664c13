import Pockiva.Remote.Listener
import Pockiva.Remote.Reports

/-! # The manager and its servers, coordinated

The invariant of the remote session with its servers, and what keeps it: one rule for each way
the manager acts.  A rule says what the acting thread must know; that the other threads keep what
they know is proved once (`Coordinated.step_agrees`).
-/
namespace Pockiva
namespace Remote

open Network (ControllerEvent)

/-! ## The invariant -/

/-- The controller of the connection was accepted. -/
def Reports.Open (r : Reports) (server : Nat) : Prop :=
  r.talk server = .opened ∨ r.talk server = .telling .message

/-- What holds of the manager and of the reports at every moment. -/
structure Coordinated (s : RemoteSession) (r : Reports) : Prop where
  coherent : s.model.model.Coherent
  agrees : ∀ i, (s.threads i).Agrees s.model.model.phase s.lifecycle.server r
  single : ∀ i j server, (s.threads i).handles = some server →
    (s.threads j).handles = some server → i = j
  started : ∀ server ∈ r.published, server < s.started
  talking : ∀ server, r.talk server ≠ .closed → server ∈ r.published
  failed : ∀ server ∈ r.failed, server ∈ r.published
  held : ∀ server, s.lifecycle.server = some server → server ∈ r.published →
    s.model.model.phase ≠ .off
  restart : ∀ server, s.lifecycle.server = some server → server ∈ r.failed →
    s.lifecycle.restartRequired = true
  taken : ∀ server, s.Running server → r.Open server → s.model.model.phase.Taken

namespace Coordinated
variable {s t : RemoteSession} {r r' : Reports} {i : Nat} {p : Point}

theorem new : Coordinated .new .new where
  coherent := RemoteModel.coherent_initial
  agrees _ := trivial
  single _ _ _ := nofun
  started := nofun
  talking _ h := absurd rfl h
  failed := nofun
  held _ := nofun
  restart _ := nofun
  taken _ _ h := h.elim nofun nofun

/-- A server whose event is handled has published its pairing data. -/
theorem published_of_handles (h : Coordinated s r) {server : Nat}
    (hi : (s.threads i).handles = some server) : server ∈ r.published := by
  obtain ⟨kind, htalk⟩ := (h.agrees i).telling hi
  refine h.talking server ?_
  rw [htalk]
  exact nofun

/-- **While an event is handled no other one is**: one server runs, and it reports one event
after the other. -/
theorem alone (h : Coordinated s r) (hs : s.Kept) {server : Nat}
    (hi : (s.threads i).handles = some server) {j other : Nat} (hji : j ≠ i) :
    (s.threads j).handles ≠ some other := by
  intro hj
  have hsame := hs.sound.running_unique (hs.sound.handled i server hi) (hs.sound.handled j other hj)
  rw [← hsame] at hj
  exact hji (h.single j i server hj hi)

/-- What the threads know after a step. -/
theorem step_agrees (h : Coordinated s r)
    (hother : ∀ j, j ≠ i → t.threads j = s.threads j ∨
      t.threads j = RemoteSession.wake (s.threads j))
    (hi : (t.threads i).Agrees t.model.model.phase t.lifecycle.server r')
    (hclaim : ∀ j, j ≠ i → (s.threads j).claim ≠ none → r'.published = r.published ∧
      (t.lifecycle.server = s.lifecycle.server ∨ t.lifecycle.server = none))
    (hhandles : ∀ j server, j ≠ i → (s.threads j).handles = some server →
      r'.talk server = r.talk server ∧
      (s.lifecycle.server = none → t.lifecycle.server = none) ∧
      (t.model.model.phase = s.model.model.phase ∨ t.model.model.phase = .error)) (j : Nat) :
    (t.threads j).Agrees t.model.model.phase t.lifecycle.server r' := by
  by_cases hji : j = i
  · rw [hji]
    exact hi
  · have hkept : (s.threads j).Agrees t.model.model.phase t.lifecycle.server r' :=
      (h.agrees j).mono (hclaim j hji) (hhandles j · hji)
    rcases hother j hji with hsame | hwoken
    · rw [hsame]
      exact hkept
    · rw [hwoken]
      cases hp : s.threads j with
      | endAsleep => exact trivial
      | _ =>
        rw [hp] at hkept
        exact hkept

theorem handles_wake (p : Point) : (RemoteSession.wake p).handles = p.handles := by
  cases p <;> rfl

/-- A step leaves each server to one thread if the thread that acts handles an event of its own
server, or of one whose events nobody handles. -/
theorem step_single (h : Coordinated s r)
    (hother : ∀ j, j ≠ i → t.threads j = s.threads j ∨
      t.threads j = RemoteSession.wake (s.threads j))
    (hi : ∀ j server, j ≠ i → (t.threads i).handles = some server →
      (s.threads j).handles ≠ some server) (j k server : Nat)
    (hj : (t.threads j).handles = some server) (hk : (t.threads k).handles = some server) :
    j = k := by
  have hold : ∀ j, j ≠ i → (t.threads j).handles = (s.threads j).handles := by
    intro j hji
    rcases hother j hji with hsame | hwoken
    · rw [hsame]
    · rw [hwoken, handles_wake]
  by_cases hji : j = i
  · by_cases hki : k = i
    · exact hji.trans hki.symm
    · rw [hji] at hj
      rw [hold k hki] at hk
      exact absurd hk (hi k server hki hj)
  · by_cases hki : k = i
    · rw [hki] at hk
      rw [hold j hji] at hj
      exact absurd hj (hi j server hji hk)
    · rw [hold j hji] at hj
      rw [hold k hki] at hk
      exact h.single j k server hj hk

/-- **A step that leaves the model and the reports**: it may take the server out of the
lifecycle and stop or start servers. -/
theorem stay (h : Coordinated s r) (hmodel : t.model.model = s.model.model)
    (hserver : t.lifecycle.server = none ∨ t.lifecycle.server = s.lifecycle.server ∧
      t.lifecycle.restartRequired = s.lifecycle.restartRequired)
    (hstarted : s.started ≤ t.started)
    (hrunning : ∀ server, server < s.started → t.Running server → s.Running server)
    (hother : ∀ j, j ≠ i → t.threads j = s.threads j ∨
      t.threads j = RemoteSession.wake (s.threads j))
    (hi : (t.threads i).Agrees s.model.model.phase t.lifecycle.server r)
    (hhandles : (t.threads i).handles = none ∨ (t.threads i).handles = (s.threads i).handles) :
    Coordinated t r where
  coherent := by
    rw [hmodel]
    exact h.coherent
  agrees := by
    refine h.step_agrees hother ?_ ?_ ?_
    · rw [hmodel]
      exact hi
    · exact fun j _ _ => ⟨rfl, hserver.symm.imp_left And.left⟩
    · intro j server _ _
      refine ⟨rfl, fun hnone => ?_, .inl (by rw [hmodel])⟩
      rcases hserver with hempty | ⟨hsame, -⟩
      · exact hempty
      · exact hsame.trans hnone
  single := by
    refine h.step_single hother ?_
    intro j server hji hserver' hj
    rcases hhandles with hnone | hsame
    · cases hnone.symm.trans hserver'
    · exact hji (h.single j i server hj (hsame.symm.trans hserver'))
  started server hserver := Nat.lt_of_lt_of_le (h.started server hserver) hstarted
  talking := h.talking
  failed := h.failed
  held server hheld hpublished := by
    rw [hmodel]
    rcases hserver with hempty | ⟨hsame, -⟩
    · cases hempty.symm.trans hheld
    · exact h.held server (hsame.symm.trans hheld) hpublished
  restart server hheld hfailed := by
    rcases hserver with hempty | ⟨hsame, hrestart⟩
    · cases hempty.symm.trans hheld
    · exact hrestart.trans (h.restart server (hsame.symm.trans hheld) hfailed)
  taken server hserver' hopen := by
    -- A server that has reported is not one that starts with this step.
    rw [hmodel]
    refine h.taken server (hrunning server (h.started server (h.talking server ?_)) hserver') hopen
    rcases hopen with hopened | htelling
    · rw [hopened]
      exact nofun
    · rw [htelling]
      exact nofun

/-- A thread goes on and leaves everything else alone. -/
theorem goto (h : Coordinated s r)
    (hp : p.Agrees s.model.model.phase s.lifecycle.server r)
    (hhandles : p.handles = none ∨ p.handles = (s.threads i).handles) :
    Coordinated (s.goto i p) r := by
  have hself : (s.goto i p).threads i = p := RemoteSession.goto_self s i p
  refine h.stay rfl (.inr ⟨rfl, rfl⟩) (Nat.le_refl _) (fun _ _ => id)
    (fun j hji => .inl (Function.update_of_ne hji _ _)) ?_ ?_
  · rw [hself]
    exact hp
  · rw [hself]
    exact hhandles

/-- **An event is answered.** -/
theorem answer (h : Coordinated s r) (hs : s.Kept) {server : Nat}
    (hi : (s.threads i).handles = some server) {accepted : Bool}
    (hthreads : t.threads = Function.update s.threads i (.answered accepted))
    (hphase : t.model.model.phase = s.model.model.phase)
    (hcoherent : t.model.model.Coherent) (hlifecycle : t.lifecycle = s.lifecycle)
    (hstarted : t.started = s.started) (hshutdowns : t.shutdowns = s.shutdowns)
    (hopen : ((r.talk server).answer accepted = .opened) → s.model.model.phase.Taken) :
    Coordinated t { r with
      talk := Function.update r.talk server ((r.talk server).answer accepted) } := by
  have hother : ∀ j, j ≠ i → t.threads j = s.threads j ∨
      t.threads j = RemoteSession.wake (s.threads j) := by
    intro j hji
    rw [hthreads]
    exact .inl (Function.update_of_ne hji _ _)
  have hself : t.threads i = .answered accepted := by
    rw [hthreads]
    exact Function.update_self _ _ _
  refine ⟨hcoherent, h.step_agrees hother ?_ ?_ ?_, h.step_single hother ?_, ?_, ?_, h.failed, ?_,
    ?_, ?_⟩
  · rw [hself]
    exact trivial
  · exact fun j _ _ => ⟨rfl, .inl (by rw [hlifecycle])⟩
  · intro j other hji hj
    exact absurd hj (h.alone hs hi hji)
  · intro j other _ hnone
    rw [hself] at hnone
    cases hnone
  · rw [hstarted]
    exact h.started
  · intro other htalk
    by_cases hsame : other = server
    · rw [hsame]
      exact h.published_of_handles hi
    · refine h.talking other fun hclosed => htalk ?_
      dsimp only
      rw [Function.update_of_ne hsame]
      exact hclosed
  · rw [hlifecycle, hphase]
    exact h.held
  · rw [hlifecycle]
    exact h.restart
  · intro other hother hopened
    rw [hphase]
    unfold RemoteSession.Running at hother
    rw [hstarted, hshutdowns] at hother
    unfold Reports.Open at hopened
    dsimp only at hopened
    by_cases hsame : other = server
    · rw [hsame, Function.update_self] at hopened
      rcases hopened with hanswer | htelling
      · exact hopen hanswer
      · -- After its answer an event is not handled any more.
        obtain ⟨kind, htalk⟩ := (h.agrees i).telling hi
        rw [htalk] at htelling
        cases kind <;> cases accepted <;> cases htelling
    · rw [Function.update_of_ne hsame] at hopened
      exact h.taken other hother hopened

/-- **A server reports an event.** -/
theorem report (h : Coordinated s r) (hs : s.Kept) {server : Nat} {event : ControllerEvent}
    (hrunning : s.Running server)
    (hadmits : (r.talk server).Admits (kindOf event))
    (hpublished : kindOf event = .connected → server ∈ r.published) :
    Coordinated (s.goto i (.eventReceived server event))
      { r with talk := Function.update r.talk server (.telling (kindOf event)) } := by
  have hother : ∀ j, j ≠ i → (s.goto i (.eventReceived server event)).threads j = s.threads j ∨
      (s.goto i (.eventReceived server event)).threads j = RemoteSession.wake (s.threads j) :=
    fun j hji => .inl (Function.update_of_ne hji _ _)
  have hself := RemoteSession.goto_self s i (.eventReceived server event)
  -- A server whose event is being handled reports no other one.
  have hquiet : ∀ j other, (s.threads j).handles ≠ some other := by
    intro j other hj
    have hsame := hs.sound.running_unique hrunning (hs.sound.handled j other hj)
    obtain ⟨kind, htalk⟩ := (h.agrees j).telling hj
    rw [hsame, htalk] at hadmits
    cases kind <;> exact hadmits.elim
  have htalked : server ∈ r.published := by
    cases hkind : kindOf event with
    | connected => exact hpublished hkind
    | _ =>
      refine h.talking server fun hclosed => ?_
      rw [hclosed, hkind] at hadmits
      exact hadmits
  refine ⟨h.coherent, h.step_agrees hother ?_ ?_ ?_, h.step_single hother ?_, h.started, ?_,
    h.failed, h.held, h.restart, ?_⟩
  · rw [hself]
    exact Function.update_self _ _ _
  · exact fun j _ _ => ⟨rfl, .inl rfl⟩
  · exact fun j other _ hj => absurd hj (hquiet j other)
  · exact fun j other _ _ => hquiet j other
  · intro other htalk
    by_cases hsame : other = server
    · rw [hsame]
      exact htalked
    · refine h.talking other fun hclosed => htalk ?_
      dsimp only
      rw [Function.update_of_ne hsame]
      exact hclosed
  · intro other hlive hopen
    refine h.taken other hlive ?_
    unfold Reports.Open at hopen
    dsimp only at hopen
    by_cases hsame : other = server
    · rw [hsame, Function.update_self] at hopen
      rcases hopen with hopened | htelling
      · cases hopened
      · -- Messages come over an open connection.
        cases htalk : r.talk server with
        | opened =>
          rw [hsame]
          exact .inl htalk
        | closed | telling | refused =>
          rw [htalk, Talk.telling.inj htelling] at hadmits
          exact hadmits.elim
    · rw [Function.update_of_ne hsame] at hopen
      exact hopen

/-- **The server of a start is held**: nobody was told about it. -/
theorem finishStart (h : Coordinated s r) (hs : s.Kept) {epoch server : Nat}
    {pairing : PairingInfo} (hi : s.threads i = .finishStart epoch server pairing) :
    Coordinated (s.finishStart i epoch server pairing) r := by
  have hclaim : (s.threads i).claim = some (epoch, .starting epoch) := by
    rw [hi]
    rfl
  have hheld : (s.threads i).held = some server := by
    rw [hi]
    rfl
  have hlive := hs.sound.taken i server hheld
  have hunpublished : server ∉ r.published := by
    have hagrees := h.agrees i
    rw [hi] at hagrees
    exact hagrees
  have howned := hs.sound.owned hclaim
  unfold RemoteSession.finishStart
  rw [if_neg (not_not.mpr howned.2.1)]
  -- An event would be of this server, after its pairing data was published.
  have hquiet : ∀ j other, (s.threads j).handles ≠ some other := by
    intro j other hj
    obtain rfl := hs.sound.running_unique hlive (hs.sound.handled j other hj)
    exact hunpublished (h.published_of_handles hj)
  refine ⟨h.coherent, h.step_agrees (i := i) (fun j hji => .inl (Function.update_of_ne hji _ _))
    ?_ ?_ ?_, h.step_single (i := i) (fun j hji => .inl (Function.update_of_ne hji _ _)) ?_,
    h.started, h.talking, h.failed, ?_, ?_, h.taken⟩
  · dsimp only
    rw [Function.update_self]
    rintro _ ⟨rfl⟩
    exact hunpublished
  · intro j hji hj
    refine absurd (hs.sound.custody.single j i hj ?_) hji
    rw [hclaim]
    exact Option.some_ne_none _
  · exact fun j other _ hj => absurd hj (hquiet j other)
  · exact fun j other _ _ => hquiet j other
  · rintro _ ⟨rfl⟩ hpublished
    exact absurd hpublished hunpublished
  · rintro _ ⟨rfl⟩ hfailed
    exact absurd (h.failed _ hfailed) hunpublished

/-- **A change of the model**, and what it needs: who handles an event meanwhile keeps what it
knows. -/
theorem change (h : Coordinated s r) (hs : s.Kept) {model : ModelState}
    {published : List Nat} (hcoherent : model.model.Coherent)
    (hi : p.Agrees model.model.phase s.lifecycle.server { r with published := published })
    (hhandles : p.handles = (s.threads i).handles)
    (hclaim : (s.threads i).claim ≠ none ∨ published = r.published)
    (hphase : ∀ j server, j ≠ i → (s.threads j).handles = some server →
      model.model.phase = s.model.model.phase ∨ model.model.phase = .error)
    (hsub : ∀ server ∈ r.published, server ∈ published)
    (hstarted : ∀ server ∈ published, server < s.started)
    (hheld : ∀ server, s.lifecycle.server = some server → server ∈ published →
      model.model.phase ≠ .off)
    (htaken : ∀ server, s.Running server → r.Open server → model.model.phase.Taken) :
    Coordinated { s with model := model, threads := Function.update s.threads i p }
      { r with published := published } := by
  refine ⟨hcoherent, h.step_agrees (i := i) (fun j hji => .inl (Function.update_of_ne hji _ _))
    ?_ ?_ ?_, h.step_single (i := i) (fun j hji => .inl (Function.update_of_ne hji _ _)) ?_,
    hstarted, fun server htalk => hsub server (h.talking server htalk),
    fun server hfailed => hsub server (h.failed server hfailed), hheld, h.restart, htaken⟩
  · dsimp only
    rw [Function.update_self]
    exact hi
  · intro j hji hj
    rcases hclaim with hclaim | hsame
    · exact absurd (hs.sound.custody.single j i hj hclaim) hji
    · exact ⟨hsame, .inl rfl⟩
  · exact fun j server hji hj => ⟨rfl, id, hphase j server hji hj⟩
  · intro j server hji hserver hj
    dsimp only at hserver
    rw [Function.update_self, hhandles] at hserver
    exact hji (h.single j i server hj hserver)

/-- Before pairing data is published, no running server has published any. -/
theorem unpublished (h : Coordinated s r) (hs : s.Kept) {pairing : PairingInfo} {epoch : Nat}
    {op : LifecycleOperation} {error : Option RemoteError}
    (hi : s.threads i = .update (.waitForController pairing) (.complete epoch op error))
    {server : Nat} (hserver : s.Running server) : server ∉ r.published := by
  have hagrees := h.agrees i
  rw [hi] at hagrees
  have hclaim : (s.threads i).claim ≠ none := by
    rw [hi]
    exact Option.some_ne_none _
  rcases hs.sound.placed server hserver.1 hserver.2 with hheld | ⟨j, hj⟩
  · exact hagrees server hheld
  · obtain rfl := hs.sound.eq_of_held hclaim hj
    rw [hi] at hj
    cases hj

theorem of_open (h : Coordinated s r) {server : Nat} (hopen : r.Open server) :
    server ∈ r.published := by
  refine h.talking server ?_
  rcases hopen with hopened | htelling
  · rw [hopened]
    exact nofun
  · rw [htelling]
    exact nofun

theorem waitForController (h : Coordinated s r) (hs : s.Kept) {pairing : PairingInfo}
    {epoch : Nat} {op : LifecycleOperation} {error : Option RemoteError}
    (hi : s.threads i = .update (.waitForController pairing) (.complete epoch op error))
    (model : ModelState) (hmodel : model.model = s.model.model.waitForController pairing)
    (delivery : SnapshotDelivery) :
    Coordinated { s with
        model := model
        threads := Function.update s.threads i (.publish delivery (.complete epoch op error)) }
      { r with published := r.published ++ s.lifecycle.server.toList } := by
  have hphase : model.model.phase = .waiting := by
    rw [hmodel]
    rfl
  refine h.change hs ?_ trivial ?_ (.inl ?_) ?_ ?_ ?_ ?_ ?_
  · rw [hmodel]
    exact RemoteModel.coherent_waitForController _ _
  · rw [hi]
    rfl
  · rw [hi]
    exact Option.some_ne_none _
  · intro j server _ hj
    exact absurd (h.published_of_handles hj) (h.unpublished hs hi (hs.sound.handled j server hj))
  · exact fun server hserver => List.mem_append_left _ hserver
  · intro server hserver
    rcases List.mem_append.mp hserver with hold | hnew
    · exact h.started server hold
    · exact (hs.sound.served server (Option.mem_toList.mp hnew)).1
  · intro _ _ _
    rw [hphase]
    exact nofun
  · exact fun server hserver hopen => absurd (h.of_open hopen) (h.unpublished hs hi hserver)

/-- A failure is published. -/
theorem fail (h : Coordinated s r) (hs : s.Kept) {error : RemoteError} {after : After}
    (hi : s.threads i = .update (.fail error) after)
    (model : ModelState) (hmodel : model.model = s.model.model.fail error)
    (delivery : SnapshotDelivery) :
    Coordinated { s with
      model := model
      threads := Function.update s.threads i (.publish delivery after) } r := by
  have hphase : model.model.phase = .error := by
    rw [hmodel]
    rfl
  refine h.change hs ?_ ?_ ?_ (.inr rfl) (fun _ _ _ _ => .inr hphase) (fun _ => id) h.started ?_ ?_
  · rw [hmodel]
    exact RemoteModel.coherent_fail _ _
  · have hagrees := h.agrees i
    rw [hi] at hagrees
    cases after with
    | handled server accepted =>
      obtain ⟨⟨kind, htalk⟩, haccepted⟩ := hagrees
      refine ⟨kind, htalk, fun hyes => ?_⟩
      cases haccepted.symm.trans hyes
    | _ => exact trivial
  · rw [hi]
    cases after <;> rfl
  · intro _ _ _
    rw [hphase]
    exact nofun
  · exact fun _ _ _ => .inr hphase

/-- **The model is turned off** when no server runs. -/
theorem turnOff (h : Coordinated s r) (hs : s.Kept) {epoch e : Nat} {error : Option RemoteError}
    (hi : s.threads i = .update .turnOff (.complete epoch (.ending e) error))
    (model : ModelState) (hmodel : model.model = .initial) (delivery : SnapshotDelivery) :
    Coordinated { s with
      model := model
      threads := Function.update s.threads i
        (.publish delivery (.complete epoch (.ending e) error)) } r := by
  have hemptied : (s.threads i).Emptied := by
    rw [hi]
    exact trivial
  -- `end` has taken the server out of the lifecycle and stopped it before.
  have hstopped : ∀ server, ¬ s.Running server := fun server hserver =>
    hserver.2 (hs.sound.none_running hemptied (by rw [hi]; rfl) hserver.1)
  refine h.change hs ?_ trivial ?_ (.inr rfl) ?_ (fun _ => id) h.started ?_ ?_
  · rw [hmodel]
    exact RemoteModel.coherent_initial
  · rw [hi]
    rfl
  · exact fun j server _ hj => absurd (hs.sound.handled j server hj) (hstopped server)
  · intro server hheld
    cases hheld.symm.trans (hs.sound.emptied i hemptied)
  · exact fun server hserver => absurd hserver (hstopped server)

/-- **The controller that is waited for connects.** -/
theorem connect (h : Coordinated s r) (hs : s.Kept) {controllerId : String} {server : Nat}
    {accepted : Bool}
    (hi : s.threads i = .update (.connect controllerId) (.handled server accepted))
    (model : ModelState) (hmodel : s.model.model.connect controllerId = some model.model)
    (delivery : SnapshotDelivery) :
    Coordinated { s with
      model := model
      threads :=
        Function.update s.threads i (.publish delivery (.handled server accepted)) } r := by
  have hagrees := h.agrees i
  rw [hi] at hagrees
  have hhandles : (s.threads i).handles = some server := by
    rw [hi]
    rfl
  have hphase : model.model.phase = .connected := by
    rw [(RemoteModel.connect_eq hmodel).2]
  refine h.change hs (h.coherent.connect hmodel) ?_ hhandles.symm (.inr rfl) ?_ (fun _ => id)
    h.started ?_ ?_
  · exact ⟨.connected, hagrees.1, fun _ _ => .inl hphase⟩
  · exact fun j other hji hj => absurd hj (h.alone hs hhandles hji)
  · intro _ _ _
    rw [hphase]
    exact nofun
  · exact fun _ _ _ => .inl hphase

/-- **A controller disconnects**: whether a server is active was decided before, and still
holds. -/
theorem disconnect (h : Coordinated s r) (hs : s.Kept) {serverActive : Bool} {server : Nat}
    {accepted : Bool}
    (hi : s.threads i = .update (.disconnect serverActive) (.handled server accepted))
    (model : ModelState) (hmodel : s.model.model.disconnect serverActive = some model.model)
    (delivery : SnapshotDelivery) :
    Coordinated { s with
      model := model
      threads :=
        Function.update s.threads i (.publish delivery (.handled server accepted)) } r := by
  have hagrees : Update.Agrees s.model.model.phase s.lifecycle.server (r.talk server) accepted
      (.disconnect serverActive) := by
    have hpoint := h.agrees i
    rw [hi] at hpoint
    exact hpoint
  have hhandles : (s.threads i).handles = some server := by
    rw [hi]
    rfl
  have htalk : r.talk server = .telling .disconnected := by
    cases serverActive <;> exact hagrees.1
  have hoff : serverActive = true → s.model.model.phase ≠ .off := by
    rintro rfl
    exact hagrees.2
  refine h.change hs (h.coherent.disconnect hmodel hoff) ?_ hhandles.symm (.inr rfl) ?_
    (fun _ => id) h.started ?_ ?_
  · exact ⟨.disconnected, htalk, fun _ => nofun⟩
  · exact fun j other hji hj => absurd hj (h.alone hs hhandles hji)
  · intro other hheld _
    rw [(RemoteModel.disconnect_eq hmodel).2]
    cases serverActive with
    | true => exact nofun
    | false => cases hheld.symm.trans hagrees.2
  · intro other hother hopen
    -- The one server that runs has just closed its connection.
    have hsame := hs.sound.running_unique hother (hs.sound.handled i server hhandles)
    rw [hsame] at hopen
    unfold Reports.Open at hopen
    rw [htalk] at hopen
    rcases hopen with hopened | htelling
    · cases hopened
    · cases htelling

/-- An observer is subscribed. -/
theorem subscribe (h : Coordinated s r) {observer : Nat} {after : After}
    (hi : s.threads i = .update (.subscribe observer) after)
    (model : ModelState) (hmodel : model.model = s.model.model) (delivery : SnapshotDelivery) :
    Coordinated { s with
      model := model
      threads := Function.update s.threads i (.publish delivery after) } r := by
  have hagrees := h.agrees i
  rw [hi] at hagrees
  refine h.stay (i := i) hmodel (.inr ⟨rfl, rfl⟩) (Nat.le_refl _) (fun _ _ => id)
    (fun j hji => .inl (Function.update_of_ne hji _ _)) ?_ (.inr ?_)
  · dsimp only
    rw [Function.update_self]
    cases after with
    | handled => exact hagrees.elim
    | _ => exact trivial
  · dsimp only
    rw [Function.update_self, hi]
    cases after <;> rfl

/-- **A failure of the runtime** marks the server held. -/
theorem failRuntime (h : Coordinated s r) (hs : s.Kept) {server : Nat} {message : String}
    (hi : s.threads i = .runtimeFailed server message) :
    Coordinated (s.failRuntime i server message)
      { r with failed := r.failed ++ s.lifecycle.server.toList } := by
  have hagrees := h.agrees i
  rw [hi] at hagrees
  have hhandles : (s.threads i).handles = some server := by
    rw [hi]
    rfl
  have hgone := h.goto (i := i)
    (p := .update (.fail ⟨.runtimeUnavailable, message⟩) (.handled server false))
    ⟨hagrees, rfl⟩ (.inr hhandles.symm)
  refine ⟨h.coherent, fun j => ?_, hgone.single, h.started, h.talking, ?_, h.held, ?_, h.taken⟩
  · exact (hgone.agrees j).mono (fun _ => ⟨rfl, .inl rfl⟩) fun _ _ => ⟨rfl, id, .inl rfl⟩
  · intro other hfailed
    rcases List.mem_append.mp hfailed with hold | hnew
    · exact h.failed other hold
    · -- The server held is the one whose event is handled: only one runs.
      have hlive := hs.sound.served other (Option.mem_toList.mp hnew)
      rw [hs.sound.running_unique hlive (hs.sound.handled i server hhandles)]
      exact h.published_of_handles hhandles
  · intro other hheld _
    exact Option.isSome_iff_exists.mpr ⟨other, hheld⟩

end Coordinated

end Remote

end Pockiva
