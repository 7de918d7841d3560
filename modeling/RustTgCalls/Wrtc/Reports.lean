import RustTgCalls.Wrtc.Closing
import RustTgCalls.Wrtc.Keepalive
import Mathlib.Data.List.Chain

namespace RustTgCalls.Wrtc.Reports

open Transition

/-! `Stack` over one transport: its calls of `connect` and `close`, and what they
report to the callback that is set before the stack is handed out. -/

/-- A call of `Stack::close`; `early` if the transport was closed already. -/
inductive CloseCall where
  | idle
  | swapClosed
  | closing
  | callback (early : Bool)
  | returned (early : Bool)
  deriving DecidableEq, Repr

/-- `announced` are the `connect` calls that have made their callback. -/
structure Stack where
  direct : Transport
  videoSsrc : UInt32
  entry : PcMonitorEntry
  announced : Nat → Bool
  closes : Nat
  closers : Nat → CloseCall
  reports : List ConnState

namespace Stack

/-- A `close` comes from `GroupCall::stop`, from `PeerConnection::close` or from
a tick. -/
inductive Action where
  | direct (action : Transport.Action)
  | connected (connect : Nat)
  | close
  | closeStep (call : Nat)
  | register
  | tick (doKeepalive : Bool) (now : Int) (send : Nat)

def new (videoSsrc : UInt32) : Stack where
  direct := .new
  videoSsrc
  entry := .new
  announced := fun _ => false
  closes := 0
  closers := fun _ => .idle
  reports := []

def spawnClose (stack : Stack) : Stack :=
  { stack with
    closes := stack.closes + 1
    closers := Function.update stack.closers stack.closes .swapClosed }

/-- `direct.connect` has returned `Ok`, and the callback is still to be made. -/
def connectDue (stack : Stack) (connect : Nat) : Bool :=
  match stack.direct.connects connect with
  | .returned (.ok _) => !stack.announced connect
  | _ => false

variable (codec : Codec)

def closeCall (stack : Stack) (call : Nat) : Stack :=
  let goto (stage : CloseCall) := Function.update stack.closers call stage
  match stack.closers call with
  | .idle | .returned _ => stack
  | .swapClosed =>
      if stack.direct.shared.closed then
        { stack with closers := goto (.callback true) }
      else
        { stack with
          direct := after (Transport.next codec) stack.direct [.close, .closeStep]
          closers := goto .closing }
  | .closing =>
      let direct := stack.direct.next codec .closeStep
      { stack with
        direct
        closers :=
          if direct.closeAt = .returned then goto (.callback false)
          else stack.closers }
  | .callback early =>
      { stack with
        closers := goto (.returned early)
        reports := stack.reports ++ [.closed] }

def next (stack : Stack) : Action → Stack
  | .direct action =>
      match action with
      -- the transport is closed by a call of `Stack::close` only
      | .close | .closeStep => stack
      | _ => { stack with direct := stack.direct.next codec action }
  | .connected connect =>
      if stack.connectDue connect then
        { stack with
          announced := Function.update stack.announced connect true
          reports := stack.reports ++ [.connected] }
      else stack
  | .close => stack.spawnClose
  | .closeStep call => stack.closeCall codec call
  | .register => { stack with entry := .new }
  | .tick doKeepalive now send =>
      let (entry, spawned) :=
        stack.entry.tick stack.direct.shared.state stack.videoSsrc doKeepalive now
      let stack := { stack with entry }
      match spawned with
      | none => stack
      | some .close => stack.spawnClose
      | some .keepalive =>
          { stack with direct := stack.direct.next codec (.send send .video) }

/-! The law of the reports, and the steps that keep it. -/

structure Exact (reports : List ConnState) : Prop where
  distinct : reports.IsChain (· ≠ ·)
  once : reports.count .closed ≤ 1
  last : .closed ∉ reports.dropLast

/-- A `close` makes its callback only where it has closed the transport itself,
and a `connect` only where no other call has made one. -/
def Orderly (stack : Stack) : Action → Prop
  | .closeStep call => stack.closers call ≠ .callback true
  | .connected connect => stack.connectDue connect = true →
      (∀ other, stack.announced other = false) ∧
        ∀ call early, stack.closers call ≠ .returned early
  | _ => True

/-- No `close` is under way. -/
def Settled (stack : Stack) : Prop :=
  ∀ call, stack.closers call = .idle ∨
    ∃ early, stack.closers call = .returned early

def Values (reports : List ConnState) : Prop :=
  ∀ report ∈ reports, report = .connected ∨ report = .closed

theorem exact_iff {reports : List ConnState} (hvalues : Values reports) :
    Exact reports ↔ reports = [] ∨ reports = [.connected] ∨
      reports = [.closed] ∨ reports = [.connected, .closed] := by
  constructor
  · rintro ⟨hdistinct, _, hlast⟩
    match reports with
    | [] => exact .inl rfl
    | [first] =>
        rcases hvalues first (by simp) with rfl | rfl
        · exact .inr (.inl rfl)
        · exact .inr (.inr (.inl rfl))
    | first :: second :: rest =>
        have hfirst : first = .connected := by
          rcases hvalues first (by simp) with hfirst | rfl
          · exact hfirst
          · simp at hlast
        have hsecond : second = .closed := by
          rcases hvalues second (by simp) with rfl | hsecond
          · simp [hfirst] at hdistinct
          · exact hsecond
        subst hfirst hsecond
        match rest with
        | [] => exact .inr (.inr (.inr rfl))
        | third :: rest => simp at hlast
  · rintro (rfl | rfl | rfl | rfl) <;> constructor <;> decide

theorem Exact.of_append {reports : List ConnState} {report : ConnState}
    (hexact : Exact (reports ++ [report])) : Exact reports := by
  obtain ⟨hdistinct, honce, hlast⟩ := hexact
  rw [List.dropLast_concat] at hlast
  refine ⟨hdistinct.left_of_append, ?_, ?_⟩
  · rw [List.count_eq_zero.mpr hlast]
    exact Nat.zero_le _
  · intro hearlier
    exact hlast (List.dropLast_subset reports hearlier)

/-- A report behind `Closed` cannot be exact. -/
theorem not_exact_append {reports : List ConnState} (report : ConnState)
    (hclosed : .closed ∈ reports) : ¬ Exact (reports ++ [report]) := by
  intro hexact
  have hlast := hexact.last
  rw [List.dropLast_concat] at hlast
  exact hlast hclosed

/-! What a step does to the calls and their reports. -/

structure Books where
  closed : Bool
  announced : Nat → Bool
  closers : Nat → CloseCall
  reports : List ConnState

def books (stack : Stack) : Books where
  closed := stack.direct.shared.closed
  announced := stack.announced
  closers := stack.closers
  reports := stack.reports

inductive Turn (stack : Stack) : Action → Books → Prop
  | quiet (action : Action) (horderly : stack.Orderly action) :
      Turn stack action stack.books
  | announce (connect : Nat) (hdue : stack.connectDue connect = true) :
      Turn stack (.connected connect)
        { stack.books with
          announced := Function.update stack.announced connect true
          reports := stack.reports ++ [.connected] }
  | spawn (action : Action) (call : Nat) (horderly : stack.Orderly action)
      (hidle : stack.closers call = .idle) :
      Turn stack action
        { stack.books with
          closers := Function.update stack.closers call .swapClosed }
  | early (call : Nat) (hat : stack.closers call = .swapClosed)
      (hclosed : stack.direct.shared.closed = true) :
      Turn stack (.closeStep call)
        { stack.books with
          closers := Function.update stack.closers call (.callback true) }
  | swap (call : Nat) (hat : stack.closers call = .swapClosed)
      (hopen : stack.direct.shared.closed = false) :
      Turn stack (.closeStep call)
        { stack.books with
          closed := true
          closers := Function.update stack.closers call .closing }
  | finish (call : Nat) (hat : stack.closers call = .closing) :
      Turn stack (.closeStep call)
        { stack.books with
          closers := Function.update stack.closers call (.callback false) }
  | report (call : Nat) (early : Bool)
      (hat : stack.closers call = .callback early) :
      Turn stack (.closeStep call)
        { stack.books with
          closers := Function.update stack.closers call (.returned early)
          reports := stack.reports ++ [.closed] }

/-- How the calls stand to the transport. -/
structure Sound (stack : Stack) : Prop where
  opened : stack.direct.shared.closed = false → stack.direct.closeAt = .idle
  closing : ∀ call, stack.closers call = .closing →
    stack.direct.shared.closed = true
  fresh : ∀ call, stack.closes ≤ call → stack.closers call = .idle

theorem sound_new (videoSsrc : UInt32) : Sound (new videoSsrc) where
  opened := fun _ => rfl
  closing := fun _ hclosing => by cases hclosing
  fresh := fun _ _ => rfl

theorem closed_elsewhere (direct : Transport) {action : Transport.Action}
    (hclose : action ≠ .close) (hcloseStep : action ≠ .closeStep) :
    (direct.next codec action).closeAt = direct.closeAt ∧
      (direct.next codec action).shared.closed = direct.shared.closed := by
  obtain ⟨hcloseAt, hshared⟩ :=
    Transport.next_elsewhere codec direct action hcloseStep
  constructor
  · rcases hcloseAt with hsame | ⟨hidle, hcalled⟩
    · exact hsame
    · have hmove : (direct.next codec action).closeAt =
          (direct.move codec action).closeAt := by
        unfold Transport.next
        dsimp only
        split <;> rfl
      rcases Transport.closeAt_move codec hcloseStep with hsame | ⟨_, hcall, _⟩
      · rw [hmove, hsame]
      · exact absurd hcall hclose
  · rcases hshared with ⟨hsame, _⟩ | ⟨write, _, hforeign, hshared⟩
    · rw [hsame]
    · rw [hshared]
      cases write <;> first | rfl | cases hforeign

theorem closed_closeStep {direct : Transport}
    (hclosed : direct.shared.closed = true) :
    (direct.next codec .closeStep).shared.closed = true := by
  rw [(Transport.next_closeStep codec direct).2, Transport.closed]
  split
  · next write hwrite =>
      cases write <;> first | exact hclosed | rfl
  · exact hclosed

theorem closed_swap {direct : Transport} (hopen : direct.shared.closed = false)
    (hidle : direct.closeAt = .idle) :
    (after (Transport.next codec) direct [.close, .closeStep]).shared.closed =
      true := by
  have hcalled : direct.next codec .close = { direct with closeAt := .swapClosed } := by
    simp [Transport.next, Transport.move, Transport.writes, hidle]
  simp only [after_cons, after_nil, hcalled]
  rw [(Transport.next_closeStep codec _).2]
  simp [Transport.closed, Transport.closeTurn, hopen, Shared.write]

theorem elsewhere {stack : Stack} (hsound : Sound stack)
    {action : Transport.Action} (hclose : action ≠ .close)
    (hcloseStep : action ≠ .closeStep) :
    ({ stack with direct := stack.direct.next codec action } : Stack).books =
        stack.books ∧
      Sound { stack with direct := stack.direct.next codec action } := by
  obtain ⟨hcloseAt, hclosed⟩ :=
    closed_elsewhere codec stack.direct hclose hcloseStep
  refine ⟨by simp [books, hclosed], ?_, ?_, hsound.fresh⟩
  · intro hopen
    rw [hclosed] at hopen
    exact hcloseAt.trans (hsound.opened hopen)
  · intro call hclosing
    exact hclosed.trans (hsound.closing call hclosing)

theorem sound_spawnClose {stack : Stack} (hsound : Sound stack) :
    Sound stack.spawnClose := by
  refine ⟨hsound.opened, ?_, ?_⟩
  · intro call hclosing
    by_cases hcall : call = stack.closes
    · simp [spawnClose, hcall] at hclosing
    · exact hsound.closing call (by simpa [spawnClose, hcall] using hclosing)
  · intro call hfresh
    have hlater : stack.closes + 1 ≤ call := hfresh
    have hcall : call ≠ stack.closes := by omega
    simpa [spawnClose, hcall] using hsound.fresh call (by omega)

/-- A call that is not idle keeps the later ones fresh as it moves on. -/
theorem fresh_update {stack : Stack} (hsound : Sound stack) {call : Nat}
    (hbusy : stack.closers call ≠ .idle) (stage : CloseCall) (later : Nat)
    (hlater : stack.closes ≤ later) :
    Function.update stack.closers call stage later = .idle := by
  have hcall : later ≠ call := by
    rintro rfl
    exact hbusy (hsound.fresh later hlater)
  simpa [hcall] using hsound.fresh later hlater

theorem turn_closeCall {stack : Stack} (hsound : Sound stack) (call : Nat) :
    Turn stack (.closeStep call) (stack.closeCall codec call).books ∧
      Sound (stack.closeCall codec call) := by
  cases hat : stack.closers call with
  | idle | returned early =>
      simp only [closeCall, hat]
      exact ⟨.quiet _ (by simp [Orderly, hat]), hsound⟩
  | swapClosed =>
      have hbusy : stack.closers call ≠ .idle := by simp [hat]
      have hfresh := fresh_update hsound hbusy
      cases hclosed : stack.direct.shared.closed with
      | true =>
          simp only [closeCall, hat, hclosed, if_true]
          refine ⟨.early call hat hclosed, hsound.opened, ?_, hfresh _⟩
          intro other _
          exact hclosed
      | false =>
          have hswapped := closed_swap codec hclosed (hsound.opened hclosed)
          simp only [closeCall, hat, hclosed, Bool.false_eq_true, if_false]
          refine ⟨?_, ?_, ?_, hfresh _⟩
          · have hturn := Turn.swap call hat hclosed
            rwa [← hswapped] at hturn
          · intro hopen
            rw [hswapped] at hopen
            cases hopen
          · intro other _
            exact hswapped
  | closing =>
      have hclosed := hsound.closing call hat
      have hstill := closed_closeStep codec hclosed
      have hbusy : stack.closers call ≠ .idle := by simp [hat]
      have hfresh := fresh_update hsound hbusy
      by_cases hdone : (stack.direct.next codec .closeStep).closeAt = .returned
      · simp only [closeCall, hat, hdone, if_true]
        refine ⟨?_, ?_, ?_, hfresh _⟩
        · have hturn := Turn.finish call hat
          rwa [books, hclosed, ← hstill] at hturn
        · intro hopen
          rw [hstill] at hopen
          cases hopen
        · intro other _
          exact hstill
      · simp only [closeCall, hat, hdone, if_false]
        refine ⟨?_, ?_, ?_, hsound.fresh⟩
        · have hturn : Turn stack (.closeStep call) stack.books :=
            .quiet _ (by simp [Orderly, hat])
          rwa [books, hclosed, ← hstill] at hturn
        · intro hopen
          rw [hstill] at hopen
          cases hopen
        · intro other _
          exact hstill
  | callback early =>
      have hbusy : stack.closers call ≠ .idle := by simp [hat]
      have hfresh := fresh_update hsound hbusy
      simp only [closeCall, hat]
      refine ⟨.report call early hat, hsound.opened, ?_, hfresh _⟩
      intro other hclosing
      by_cases hother : other = call
      · simp [hother] at hclosing
      · exact hsound.closing other (by simpa [hother] using hclosing)

theorem turn_next {stack : Stack} (hsound : Sound stack) (action : Action) :
    Turn stack action (stack.next codec action).books ∧
      Sound (stack.next codec action) := by
  have hspawn (action : Action) (horderly : stack.Orderly action)
      (entry : PcMonitorEntry) :
      Turn stack action ({ stack with entry }.spawnClose).books :=
    .spawn action stack.closes horderly (hsound.fresh _ (Nat.le_refl _))
  have hentry (entry : PcMonitorEntry) : Sound { stack with entry } :=
    ⟨hsound.opened, hsound.closing, hsound.fresh⟩
  cases action with
  | direct action =>
      by_cases hclose : action = .close ∨ action = .closeStep
      · rcases hclose with rfl | rfl <;> exact ⟨.quiet _ trivial, hsound⟩
      · rw [not_or] at hclose
        obtain ⟨hbooks, hnext⟩ := elsewhere codec hsound hclose.1 hclose.2
        have hstep : stack.next codec (.direct action) =
            { stack with direct := stack.direct.next codec action } := by
          cases action <;> first | rfl | simp at hclose
        rw [hstep, hbooks]
        exact ⟨.quiet _ trivial, hnext⟩
  | connected connect =>
      cases hdue : stack.connectDue connect with
      | false =>
          simp only [next, hdue, Bool.false_eq_true, if_false]
          exact ⟨.quiet _ (by simp [Orderly, hdue]), hsound⟩
      | true =>
          simp only [next, hdue, if_true]
          exact ⟨.announce connect hdue, hsound.opened, hsound.closing,
            hsound.fresh⟩
  | close => exact ⟨hspawn .close trivial stack.entry, sound_spawnClose hsound⟩
  | closeStep call => exact turn_closeCall codec hsound call
  | register => exact ⟨.quiet _ trivial, hentry _⟩
  | tick doKeepalive now send =>
      simp only [next]
      split
      · exact ⟨.quiet _ trivial, hentry _⟩
      · exact ⟨hspawn (.tick doKeepalive now send) trivial _,
          sound_spawnClose (hentry _)⟩
      · have hsend (stack : Stack) (hsound : Sound stack) :=
          elsewhere codec hsound
            (show Transport.Action.send send .video ≠ .close by simp)
            (show Transport.Action.send send .video ≠ .closeStep by simp)
        obtain ⟨hbooks, hnext⟩ := hsend _ <| hentry
          (stack.entry.tick stack.direct.shared.state stack.videoSsrc doKeepalive
            now).1
        rw [hbooks]
        exact ⟨.quiet _ trivial, hnext⟩

/-! The reports of an orderly run. -/

def owns : CloseCall → Bool
  | .closing | .callback false | .returned false => true
  | _ => false

/-- Every value reported so far is owed to a call, and one call has closed the
transport. -/
structure Ordered (books : Books) : Prop where
  values : Values books.reports
  exact : Exact books.reports
  connectedBy : .connected ∈ books.reports →
    ∃ connect, books.announced connect = true
  closedBy : .closed ∈ books.reports →
    ∃ call, books.closers call = .returned false
  owner : ∀ call other, owns (books.closers call) = true →
    owns (books.closers other) = true → call = other
  owned : ∀ call, owns (books.closers call) = true → books.closed = true

theorem ordered_new (videoSsrc : UInt32) : Ordered (new videoSsrc).books where
  values := by simp [Values, books, new]
  exact := by constructor <;> simp [books, new]
  connectedBy := by simp [books, new]
  closedBy := by simp [books, new]
  owner := by simp [books, new, owns]
  owned := by simp [books, new, owns]

theorem owns_update {closers : Nat → CloseCall} {call : Nat} {stage : CloseCall}
    (hsame : owns stage = owns (closers call)) (other : Nat) :
    owns (Function.update closers call stage other) = owns (closers other) := by
  by_cases hother : other = call
  · subst hother
    simpa using hsame
  · simp [hother]

theorem returned_update {closers : Nat → CloseCall} {call : Nat}
    {stage : CloseCall} (hunder : closers call ≠ .returned false)
    (hreturned : ∃ other, closers other = .returned false) :
    ∃ other, Function.update closers call stage other = .returned false := by
  obtain ⟨other, hother⟩ := hreturned
  have hdistinct : other ≠ call := by
    rintro rfl
    exact hunder hother
  exact ⟨other, by simpa [hdistinct] using hother⟩

/-- A call goes on to a stage that owns the transport as the last one did. -/
theorem Ordered.goto {books : Books} (hordered : Ordered books) {call : Nat}
    {stage : CloseCall} (hsame : owns stage = owns (books.closers call))
    (hunder : books.closers call ≠ .returned false) :
    Ordered { books with closers := Function.update books.closers call stage } where
  values := hordered.values
  exact := hordered.exact
  connectedBy := hordered.connectedBy
  closedBy := fun hclosed => returned_update hunder (hordered.closedBy hclosed)
  owner := fun first second hfirst hsecond => by
    rw [owns_update hsame] at hfirst hsecond
    exact hordered.owner first second hfirst hsecond
  owned := fun other howns => by
    rw [owns_update hsame] at howns
    exact hordered.owned other howns

/-- Nothing is reported while no call has made its callback. -/
theorem Ordered.silent {books : Books} (hordered : Ordered books)
    (hannounced : ∀ connect, books.announced connect = false)
    (hreturned : ∀ call early, books.closers call ≠ .returned early) :
    books.reports = [] := by
  apply List.eq_nil_iff_forall_not_mem.mpr
  intro report hreport
  rcases hordered.values report hreport with rfl | rfl
  · obtain ⟨connect, hconnect⟩ := hordered.connectedBy hreport
    simp [hannounced connect] at hconnect
  · obtain ⟨call, hcall⟩ := hordered.closedBy hreport
    exact hreturned call false hcall

theorem Ordered.announce {books : Books} (hordered : Ordered books)
    (connect : Nat) (hannounced : ∀ connect, books.announced connect = false)
    (hreturned : ∀ call early, books.closers call ≠ .returned early) :
    Ordered
      { books with
        announced := Function.update books.announced connect true
        reports := books.reports ++ [.connected] } := by
  have hreports := hordered.silent hannounced hreturned
  refine ⟨?_, ?_, ?_, ?_, hordered.owner, hordered.owned⟩
  · simp [Values, hreports]
  · simp only [hreports, List.nil_append]
    constructor <;> decide
  · intro _
    exact ⟨connect, Function.update_self connect true books.announced⟩
  · intro hclosed
    simp [hreports] at hclosed

theorem Ordered.swap {books : Books} (hordered : Ordered books) {call : Nat}
    (hat : books.closers call = .swapClosed) (hopen : books.closed = false) :
    Ordered
      { books with
        closed := true
        closers := Function.update books.closers call .closing } := by
  have hnone (other : Nat) : owns (books.closers other) = false := by
    by_contra howns
    have hclosed := hordered.owned other (by simpa using howns)
    simp [hopen] at hclosed
  have honly (other : Nat)
      (howns : owns (Function.update books.closers call .closing other) = true) :
      other = call := by
    by_contra hother
    simp [hother, hnone] at howns
  refine ⟨hordered.values, hordered.exact, hordered.connectedBy, ?_, ?_, ?_⟩
  · intro hclosed
    exact returned_update (by simp [hat]) (hordered.closedBy hclosed)
  · intro first second hfirst hsecond
    exact (honly first hfirst).trans (honly second hsecond).symm
  · intro _ _
    rfl

theorem Ordered.report {books : Books} (hordered : Ordered books) {call : Nat}
    (hat : books.closers call = .callback false) :
    Ordered
      { books with
        closers := Function.update books.closers call (.returned false)
        reports := books.reports ++ [.closed] } := by
  have hmoved : Ordered
      { books with
        closers := Function.update books.closers call (.returned false) } :=
    hordered.goto (by simp [hat, owns]) (by simp [hat])
  have hopen : .closed ∉ books.reports := by
    intro hclosed
    obtain ⟨other, hother⟩ := hordered.closedBy hclosed
    have hsame := hordered.owner other call (by simp [hother, owns])
      (by simp [hat, owns])
    simp [hsame, hat] at hother
  have hvalues : Values (books.reports ++ [.closed]) := by
    intro report hreport
    rcases List.mem_append.mp hreport with hearlier | hlast
    · exact hordered.values report hearlier
    · exact .inr (by simpa using hlast)
  refine ⟨hvalues, (exact_iff hvalues).mpr ?_, ?_, ?_, hmoved.owner, hmoved.owned⟩
  · rcases (exact_iff hordered.values).mp hordered.exact with
      hreports | hreports | hreports | hreports
    · simp [hreports]
    · simp [hreports]
    · simp [hreports] at hopen
    · simp [hreports] at hopen
  · intro hconnected
    exact hordered.connectedBy (by simpa using hconnected)
  · intro _
    exact ⟨call, Function.update_self call _ books.closers⟩

theorem Ordered.turn {stack : Stack} {action : Action} {after : Books}
    (hordered : Ordered stack.books) (horderly : stack.Orderly action)
    (hturn : Turn stack action after) : Ordered after := by
  cases hturn with
  | quiet => exact hordered
  | announce connect hdue =>
      obtain ⟨hannounced, hreturned⟩ := horderly hdue
      exact hordered.announce connect hannounced hreturned
  | spawn _ call _ hidle =>
      exact hordered.goto (by simp [books, hidle, owns]) (by simp [books, hidle])
  | early call hat _ =>
      exact hordered.goto (by simp [books, hat, owns]) (by simp [books, hat])
  | swap call hat hopen => exact hordered.swap hat hopen
  | finish call hat =>
      exact hordered.goto (by simp [books, hat, owns]) (by simp [books, hat])
  | report call early hat =>
      have hearly : early = false := by
        by_contra hearly
        exact horderly (by simpa [hearly] using hat)
      subst hearly
      exact hordered.report hat

/-! A report out of order is not made good. -/

def pending : CloseCall → Bool
  | .closing | .callback false => true
  | _ => false

structure Owed (books : Books) : Prop where
  values : Values books.reports
  announced : ∀ connect, books.announced connect = true →
    .connected ∈ books.reports
  returned : ∀ call early, books.closers call = .returned early →
    .closed ∈ books.reports
  early : ∀ call, books.closers call = .callback true → books.closed = true
  owner : books.closed = true → ∃ call, owns (books.closers call) = true

/-- The call that has closed the transport will report behind a `Closed`. -/
def Damaged (books : Books) : Prop :=
  ¬ Exact books.reports ∨
    .closed ∈ books.reports ∧ ∃ call, pending (books.closers call) = true

theorem owed_new (videoSsrc : UInt32) : Owed (new videoSsrc).books where
  values := by simp [Values, books, new]
  announced := by simp [books, new]
  returned := by simp [books, new]
  early := by simp [books, new]
  owner := by simp [books, new, Transport.new]

theorem values_append {reports : List ConnState} {report : ConnState}
    (hvalues : Values reports) (hreport : report = .connected ∨ report = .closed) :
    Values (reports ++ [report]) := by
  intro other hother
  rcases List.mem_append.mp hother with hearlier | hlast
  · exact hvalues other hearlier
  · rwa [List.mem_singleton.mp hlast]

theorem stage_update {closers : Nat → CloseCall} {call other : Nat}
    {stage found : CloseCall}
    (hother : Function.update closers call stage other = found) :
    other = call ∧ stage = found ∨ closers other = found := by
  by_cases hsame : other = call
  · subst hsame
    exact .inl ⟨rfl, by simpa using hother⟩
  · exact .inr (by simpa [hsame] using hother)

theorem owns_of_update {closers : Nat → CloseCall} {call : Nat}
    {stage : CloseCall}
    (hkeep : owns (closers call) = true → owns stage = true)
    (howner : ∃ other, owns (closers other) = true) :
    ∃ other, owns (Function.update closers call stage other) = true := by
  obtain ⟨other, howns⟩ := howner
  refine ⟨other, ?_⟩
  by_cases hsame : other = call
  · subst hsame
    simpa using hkeep howns
  · simpa [hsame] using howns

theorem pending_of_update {closers : Nat → CloseCall} {call : Nat}
    {stage : CloseCall}
    (hkeep : pending (closers call) = true → pending stage = true)
    (hpending : ∃ other, pending (closers other) = true) :
    ∃ other, pending (Function.update closers call stage other) = true := by
  obtain ⟨other, hother⟩ := hpending
  refine ⟨other, ?_⟩
  by_cases hsame : other = call
  · subst hsame
    simpa using hkeep hother
  · simpa [hsame] using hother

/-- A call goes on and reports nothing. -/
theorem Owed.goto {books : Books} (howed : Owed books) {call : Nat}
    {stage : CloseCall} (hreturned : ∀ early, stage ≠ .returned early)
    (hearly : stage = .callback true → books.closed = true)
    (howns : owns (books.closers call) = true → owns stage = true) :
    Owed { books with closers := Function.update books.closers call stage } := by
  refine ⟨howed.values, howed.announced, ?_, ?_, ?_⟩
  · intro other early hother
    rcases stage_update hother with ⟨_, hstage⟩ | hbefore
    · exact absurd hstage (hreturned early)
    · exact howed.returned other early hbefore
  · intro other hother
    rcases stage_update hother with ⟨_, hstage⟩ | hbefore
    · exact hearly hstage
    · exact howed.early other hbefore
  · intro hclosed
    exact owns_of_update howns (howed.owner hclosed)

theorem Owed.turn {stack : Stack} {action : Action} {after : Books}
    (howed : Owed stack.books) (hturn : Turn stack action after) : Owed after := by
  cases hturn with
  | quiet => exact howed
  | announce connect _ =>
      refine ⟨values_append howed.values (.inl rfl), ?_, ?_, howed.early,
        howed.owner⟩
      · intro other _
        simp
      · intro call early hreturned
        exact List.mem_append_left _ (howed.returned call early hreturned)
  | spawn _ call _ hidle =>
      exact howed.goto (by simp) (by simp) (by simp [books, hidle, owns])
  | early call hat hclosed =>
      exact howed.goto (by simp) (fun _ => hclosed) (by simp [books, hat, owns])
  | swap call hat _ =>
      refine ⟨howed.values, howed.announced, ?_, fun _ _ => rfl, fun _ =>
        ⟨call, by simp [owns]⟩⟩
      intro other early hother
      rcases stage_update hother with ⟨_, hstage⟩ | hbefore
      · cases hstage
      · exact howed.returned other early hbefore
  | finish call hat =>
      exact howed.goto (by simp) (by simp) (by simp [owns])
  | report call early hat =>
      refine ⟨values_append howed.values (.inr rfl), ?_, ?_, ?_, ?_⟩
      · intro connect hconnect
        exact List.mem_append_left _ (howed.announced connect hconnect)
      · intro other found _
        simp
      · intro other hother
        rcases stage_update hother with ⟨_, hstage⟩ | hbefore
        · cases hstage
        · exact howed.early other hbefore
      · intro hclosed
        refine owns_of_update ?_ (howed.owner hclosed)
        rw [hat]
        cases early <;> simp [owns]

theorem Damaged.turn {stack : Stack} {action : Action} {after : Books}
    (hdamaged : Damaged stack.books) (hturn : Turn stack action after) :
    Damaged after := by
  have hgoto {call : Nat} {stage : CloseCall}
      (hkeep : pending (stack.closers call) = true → pending stage = true)
      (closed : Bool) :
      Damaged
        { stack.books with
          closed
          closers := Function.update stack.closers call stage } :=
    hdamaged.imp id (And.imp id (pending_of_update hkeep))
  have happend (report : ConnState) : ¬ Exact (stack.reports ++ [report]) := by
    rcases hdamaged with hinexact | ⟨hclosed, _⟩
    · exact fun hexact => hinexact hexact.of_append
    · exact not_exact_append report hclosed
  cases hturn with
  | quiet => exact hdamaged
  | announce connect _ => exact .inl (happend .connected)
  | spawn _ call _ hidle => exact hgoto (by simp [hidle, pending]) _
  | early call hat _ => exact hgoto (by simp [hat, pending]) _
  | swap call hat _ => exact hgoto (by simp [hat, pending]) _
  | finish call hat => exact hgoto (by simp [pending]) _
  | report call early hat => exact .inl (happend .closed)

/-- `Connected` is not reported exactly behind another report. -/
theorem eq_nil_of_exact {reports : List ConnState} (hvalues : Values reports)
    (hexact : Exact (reports ++ [.connected])) : reports = [] := by
  rcases (exact_iff (values_append hvalues (.inl rfl))).mp hexact with
    hreports | hreports | hreports | hreports
  · simp at hreports
  · simpa using hreports
  · simp [List.append_eq_singleton_iff] at hreports
  · have hlast := congrArg List.getLast? hreports
    simp at hlast

theorem damaged_of_not_orderly {stack : Stack} {action : Action} {after : Books}
    (howed : Owed stack.books) (hdisorderly : ¬ stack.Orderly action)
    (hturn : Turn stack action after) : Damaged after := by
  cases hturn with
  | quiet _ horderly => exact absurd horderly hdisorderly
  | announce connect hdue =>
      left
      intro hexact
      have hreports := eq_nil_of_exact howed.values hexact
      refine hdisorderly fun _ => ⟨?_, ?_⟩
      · intro other
        cases hother : stack.announced other with
        | false => rfl
        | true =>
            have hconnected := howed.announced other hother
            simp [hreports] at hconnected
      · intro call early hreturned
        have hclosed := howed.returned call early hreturned
        simp [hreports] at hclosed
  | spawn _ call horderly _ => exact absurd horderly hdisorderly
  | early call hat _ => simp [Orderly, hat] at hdisorderly
  | swap call hat _ => simp [Orderly, hat] at hdisorderly
  | finish call hat => simp [Orderly, hat] at hdisorderly
  | report call early hat =>
      have hearly : stack.closers call = .callback true := by
        simpa [Orderly] using hdisorderly
      obtain ⟨owner, howner⟩ := howed.owner (howed.early call hearly)
      have hother : owner ≠ call := by
        rintro rfl
        simp [books, hearly, owns] at howner
      by_cases hclosed : .closed ∈ stack.reports
      · exact .inl (not_exact_append .closed hclosed)
      · refine .inr ⟨by simp, owner, ?_⟩
        have hpending : pending (stack.closers owner) = true := by
          cases hstage : stack.closers owner with
          | closing => rfl
          | callback found => cases found <;> simp_all [books, owns, pending]
          | returned found => exact absurd (howed.returned owner found hstage) hclosed
          | idle | swapClosed => simp [books, hstage, owns] at howner
        simpa [hother] using hpending

/-- In an orderly run the reports are exact, and no other run whose `close` calls
have all returned keeps them so. -/
theorem reports_exact_iff (videoSsrc : UInt32) (actions : List Action) :
    (Along (next codec) Orderly (new videoSsrc) actions →
        Always (next codec) (fun stack => Exact stack.reports) (new videoSsrc)
          actions) ∧
      (Settled (after (next codec) (new videoSsrc) actions) →
        Always (next codec) (fun stack => Exact stack.reports) (new videoSsrc)
          actions →
        Along (next codec) Orderly (new videoSsrc) actions) := by
  constructor
  · intro horderly
    have hordered : Always (next codec)
        (fun stack => Sound stack ∧ Ordered stack.books) (new videoSsrc) actions := by
      apply horderly.always
      · rintro stack action ⟨hsound, hordered⟩ horderly
        obtain ⟨hturn, hnext⟩ := turn_next codec hsound action
        exact ⟨hnext, hordered.turn horderly hturn⟩
      · exact ⟨sound_new videoSsrc, ordered_new videoSsrc⟩
    exact hordered.mono fun stack hstack => hstack.2.exact
  · intro hsettled hexact
    have hinvariant (stack : Stack) (action : Action)
        (hstack : Sound stack ∧ Owed stack.books) :
        Sound (stack.next codec action) ∧ Owed (stack.next codec action).books := by
      obtain ⟨hturn, hnext⟩ := turn_next codec hstack.1 action
      exact ⟨hnext, hstack.2.turn hturn⟩
    have hdamage (stack : Stack) (action : Action)
        (hstack : Sound stack ∧ Owed stack.books)
        (hdisorderly : ¬ stack.Orderly action) :
        Damaged (stack.next codec action).books :=
      damaged_of_not_orderly hstack.2 hdisorderly
        (turn_next codec hstack.1 action).1
    have hlasts (stack : Stack) (action : Action)
        (hstack : Sound stack ∧ Owed stack.books) (hdamaged : Damaged stack.books) :
        Damaged (stack.next codec action).books :=
      hdamaged.turn (turn_next codec hstack.1 action).1
    have hend : ¬ Damaged (after (next codec) (new videoSsrc) actions).books := by
      rintro (hinexact | ⟨_, call, hpending⟩)
      · exact hinexact hexact.after
      · rw [books] at hpending
        rcases hsettled call with hidle | ⟨early, hreturned⟩
        · simp [hidle, pending] at hpending
        · simp [hreturned, pending] at hpending
    exact along_of_undamaged_of hinvariant hdamage hlasts
      ⟨sound_new videoSsrc, owed_new videoSsrc⟩ hend

theorem reports_exact_closed :
    Always (next Transport.sampleCodec) (fun stack => Exact stack.reports) (new 1)
      (.close :: List.replicate 7 (.closeStep 0)) := by
  apply (reports_exact_iff Transport.sampleCodec 1 _).1
  refine ⟨trivial, ?_, ?_, ?_, ?_, ?_, ?_, ?_, trivial⟩ <;>
    (simp only [Orderly]; decide)

def overdue (now : Int) (call : Nat) : List Action :=
  .tick false (now * 1000000000) 0 :: List.replicate 7 (.closeStep call)

/-- The monitor closes a stack that never connected in each tick past the limit. -/
theorem overdue_closed_twice :
    ¬ Always (next Transport.sampleCodec) (fun stack => Exact stack.reports) (new 1)
      ([.tick false 1000000000 0] ++ overdue 37 0 ++ overdue 38 1) := by
  intro halways
  exact absurd halways.after.once (by decide)

end Stack

end RustTgCalls.Wrtc.Reports
