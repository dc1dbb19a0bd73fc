import Mathlib.Data.List.Destutter
import LintHub.Proofs.Engine.Minutes

set_option autoImplicit false

/-!
# The replies of a session

What a session asks for and emits because of an event of its document depends on the event, on the
line on which it saw the cursor last, and on what it goes by at that moment (`Reception.replies`).
Minutes in which the replies stand right behind the events, and in which a session asks for nothing
and emits nothing else but that results changed, are said to follow (`Follows`). From such minutes
can be read off which runs a session asks for (`Follows.asked_eq`), that the lines it reports are
those it saw with repetitions removed (`Follows.lines_eq`), that an event has its replies at once
(`Follows.of_heeded`), and that behind the end of the document nothing comes but the end of the
session (`Follows.of_closed`).
-/

namespace LintHub

/-! ## Replies -/

namespace Reception

/-- The runs that a session asks for because of the event. -/
def attempts (r : Reception) : List Trigger :=
  match r.event with
  | .saved => [.onSave]
  | .stoppedChanging => if r.alive && r.config.lintOnFly then [.onChange] else []
  | .cursorMoved _ => []
  | .closed => []

/-- The line to which the cursor moves, if it does. -/
def line? (r : Reception) : Option UInt32 :=
  match r.event with
  | .cursorMoved p => some p.line
  | _ => none

/-- What a session emits because of the event if it saw the cursor on a line before. -/
def reports (line : UInt32) (r : Reception) : List SessionEvent :=
  match r.event with
  | .saved => []
  | .stoppedChanging => []
  | .cursorMoved p => if line = p.line then [] else [.cursorLineChanged p.line]
  | .closed => [.destroyed]

/-- What is in the minutes right behind the event. -/
def replies (s : Nat) (line : UInt32) (r : Reception) : List Minute :=
  r.attempts.map (.asks s) ++ (r.reports line).map fun e => .emits (.session s e)

end Reception

/-- What a session keeps of its document: the line on which it saw the cursor last, and whether it
is over. -/
structure Outlook where
  line : UInt32
  gone : Bool

/-- What a session keeps when an event has reached it. -/
def Outlook.after (a : Outlook) (r : Reception) : Outlook :=
  match r.event with
  | .cursorMoved p => { a with line := p.line }
  | .closed => { a with gone := true }
  | _ => a

/-- What is taken down is nothing that a session has from its document, nor its end. -/
def Minute.Aside (s : Nat) (may : Prop) : Minute → Prop
  | .receives t _ => t ≠ s
  | .asks t _ => t ≠ s
  | .emits (.session t e) => t = s → may ∧ ∃ id, e = .resultsUpdated id
  | .emits _ => True

/-- The minutes have the replies of a session right behind the events that reach it. -/
inductive Follows (removes : Prop) (s : Nat) : Outlook → List Minute → Outlook → Prop
  | nothing {a : Outlook} : Follows removes s a [] a
  | aside {a b : Outlook} {x : Minute} {l : List Minute}
      (aside : x.Aside s (a.gone = false ∨ removes)) :
      Follows removes s a l b → Follows removes s a (x :: l) b
  | heeds {a b : Outlook} {r : Reception} {l : List Minute} (present : a.gone = false)
      (live : r.live = true) :
      Follows removes s (a.after r) l b →
        Follows removes s a (.receives s r :: (r.replies s a.line ++ l)) b
  | late {a b : Outlook} {r : Reception} {l : List Minute} (ended : a.gone = true)
      (late : r.live = false) :
      Follows removes s a l b → Follows removes s a (.receives s r :: l) b
  | ends {a b : Outlook} {l : List Minute} (present : a.gone = false) :
      Follows removes s { a with gone := true } l b →
        Follows removes s a (.emits (.session s .destroyed) :: l) b

/-- The line that is reported. -/
def SessionEvent.line? : SessionEvent → Option UInt32
  | .cursorLineChanged line => some line
  | _ => none

/-- A session replies by asking for runs and by reporting, never by receiving. -/
theorem Reception.not_mem_replies (r : Reception) (s : Nat) (line : UInt32) (t : Nat)
    (r' : Reception) : .receives t r' ∉ r.replies s line := by
  simp [replies]

/-- The line that counts behind an event is the one to which it moves the cursor, if it does. -/
theorem getLastD_lines_cons (a : Outlook) (r : Reception) (l : List Reception) :
    ((r :: l).filterMap Reception.line?).getLastD a.line =
      (l.filterMap Reception.line?).getLastD (a.after r).line := by
  obtain ⟨event, live, alive, config⟩ := r
  cases event with
  | cursorMoved p => exact List.getLastD_cons
  | _ => rfl

section Lists

variable (s : Nat)

theorem heeded_append (l l' : List Minute) : heeded s (l ++ l') = heeded s l ++ heeded s l' :=
  List.filterMap_append

theorem asked_append (l l' : List Minute) : asked s (l ++ l') = asked s l ++ asked s l' :=
  List.filterMap_append

theorem told_append (l l' : List Minute) : told s (l ++ l') = told s l ++ told s l' :=
  List.filterMap_append

/-- Replies are not heeded again. -/
theorem heeded_replies (line : UInt32) (r : Reception) : heeded s (r.replies s line) = [] := by
  simp [heeded, Reception.replies, Minute.heeded?, Function.comp_def]

/-- What is asked for in reply to an event are the attempts that belong to it. -/
theorem asked_replies (line : UInt32) (r : Reception) :
    asked s (r.replies s line) = r.attempts := by
  simp [asked, Reception.replies, Minute.asked?, Function.comp_def]

/-- What is told in reply to an event is the line, where it is another one. -/
theorem told_replies (line : UInt32) (r : Reception) :
    told s (r.replies s line) = r.reports line := by
  simp [told, Reception.replies, Minute.told?, Function.comp_def]

theorem asked_receives (t : Nat) (r : Reception) (l : List Minute) :
    asked s (.receives t r :: l) = asked s l := rfl

theorem told_receives (t : Nat) (r : Reception) (l : List Minute) :
    told s (.receives t r :: l) = told s l := rfl

variable {s}

/-- An event that a session receives while it is not over is heeded. -/
theorem heeded_cons_of_live {r : Reception} (live : r.live = true) (l : List Minute) :
    heeded s (.receives s r :: l) = r :: heeded s l :=
  List.filterMap_cons_some (if_pos ⟨rfl, live⟩)

/-- An event that it receives afterwards is not. -/
theorem heeded_cons_of_late {r : Reception} (late : r.live = false) (l : List Minute) :
    heeded s (.receives s r :: l) = heeded s l :=
  List.filterMap_cons_none (if_neg fun h => Bool.noConfusion (late.symm.trans h.2))

variable {x : Minute} {may : Prop}

/-- What goes on beside a session is none of the events that it heeds. -/
theorem Minute.Aside.heeded_cons (h : x.Aside s may) (l : List Minute) :
    heeded s (x :: l) = heeded s l := by
  refine List.filterMap_cons_none ?_
  cases x with
  | receives t r => exact if_neg fun here => h here.1
  | _ => rfl

/-- Nor is it one of the runs that it asks for. -/
theorem Minute.Aside.asked_cons (h : x.Aside s may) (l : List Minute) :
    asked s (x :: l) = asked s l := by
  refine List.filterMap_cons_none ?_
  cases x with
  | asks t r => exact if_neg h
  | _ => rfl

/-- All that may be emitted aside is that results changed. -/
theorem Minute.Aside.told_cons (h : x.Aside s may) (l : List Minute) :
    told s (x :: l) = told s l ∨ may ∧ ∃ id, told s (x :: l) = .resultsUpdated id :: told s l := by
  cases x with
  | emits sig =>
    cases sig with
    | session t e =>
      by_cases here : t = s
      · obtain ⟨allowed, id, rfl⟩ := h here
        exact .inr ⟨allowed, id, List.filterMap_cons_some (if_pos here)⟩
      · exact .inl (List.filterMap_cons_none (if_neg here))
    | _ => exact .inl rfl
  | _ => exact .inl rfl

end Lists

namespace Follows

variable {removes : Prop} {s : Nat} {a b c : Outlook} {l l' : List Minute}

/-- Minutes that follow one another follow as a whole. -/
theorem append (h : Follows removes s a l b) (h' : Follows removes s b l' c) :
    Follows removes s a (l ++ l') c := by
  induction h with
  | nothing => exact h'
  | aside out _ ih => exact (ih h').aside out
  | heeds present live _ ih =>
    rw [List.cons_append, List.append_assoc]
    exact (ih h').heeds present live
  | late ended late _ ih => exact (ih h').late ended late
  | ends present _ ih => exact (ih h').ends present

/-- Each event has the attempts that belong to it, and there are no others. -/
theorem asked_eq (h : Follows removes s a l b) :
    asked s l = (heeded s l).flatMap Reception.attempts := by
  induction h with
  | nothing => rfl
  | aside out _ ih => rw [out.asked_cons, out.heeded_cons, ih]
  | heeds present live _ ih =>
    rw [asked_receives, heeded_cons_of_live live, asked_append, asked_replies, heeded_append,
      heeded_replies, List.nil_append, List.flatMap_cons, ih]
  | late ended late _ ih => rw [asked_receives, heeded_cons_of_late late, ih]
  | ends present _ ih => exact ih

/-- The lines that a session reports are those on which it saw the cursor, with repetitions
removed. -/
theorem lines_eq (h : Follows removes s a l b) :
    a.line :: (told s l).filterMap SessionEvent.line? =
      (a.line :: (heeded s l).filterMap Reception.line?).destutter (· ≠ ·) := by
  induction h with
  | nothing => rfl
  | @aside a b x l out _ ih =>
    rw [out.heeded_cons, ← ih]
    rcases out.told_cons l with same | ⟨-, id, more⟩
    · rw [same]
    · rw [more]
      rfl
  | @heeds a b r l present live _ ih =>
    rw [told_receives, heeded_cons_of_live live, told_append, told_replies, heeded_append,
      heeded_replies, List.nil_append, List.filterMap_append]
    obtain ⟨event, isLive, alive, config⟩ := r
    cases event with
    | cursorMoved p =>
      -- The line is reported if it is another one, and is the one that counts from here on.
      have ih : p.line :: (told s l).filterMap SessionEvent.line? =
        (p.line :: (heeded s l).filterMap Reception.line?).destutter (· ≠ ·) := ih
      rw [List.filterMap_cons_some (show Reception.line? _ = some p.line from rfl)]
      have reported : Reception.reports a.line ⟨.cursorMoved p, isLive, alive, config⟩ =
        if a.line = p.line then [] else [.cursorLineChanged p.line] := rfl
      rw [List.destutter_cons_cons, reported]
      by_cases same : a.line = p.line
      · rw [if_pos same, if_neg (not_not.2 same), same]
        exact ih
      · rw [if_neg same, if_pos same]
        exact congrArg (a.line :: ·) ih
    | _ => exact ih
  | late ended late _ ih => rw [told_receives, heeded_cons_of_late late, ih]
  | @ends a b l present _ ih =>
    -- The end is among what a session tells, but it reports no line.
    have first : told s (.emits (.session s .destroyed) :: l) = .destroyed :: told s l :=
      List.filterMap_cons_some (if_pos rfl)
    rw [first]
    exact ih

/-- A session that is over heeds nothing, and reports at most that results are taken away. -/
theorem silent_of_gone (h : Follows removes s a l b) (gone : a.gone = true) :
    heeded s l = [] ∧
      ∃ ids : List AnalyzerId, told s l = ids.map .resultsUpdated ∧ (¬removes → ids = []) := by
  have present (live : a.gone = false) : False := Bool.noConfusion (gone.symm.trans live)
  induction h with
  | nothing => exact ⟨rfl, [], rfl, fun _ => rfl⟩
  | @aside a b x l out _ ih =>
    obtain ⟨none, ids, said, kept⟩ := ih gone present
    refine ⟨by rw [out.heeded_cons, none], ?_⟩
    rcases out.told_cons l with same | ⟨allowed, id, more⟩
    · exact ⟨ids, by rw [same, said], kept⟩
    · have removed : removes := allowed.resolve_left present
      exact ⟨id :: ids, by rw [more, said]; rfl, fun none => absurd removed none⟩
  | heeds live => exact (present live).elim
  | late _ late _ ih =>
    rw [told_receives, heeded_cons_of_late late]
    exact ih gone present
  | ends live => exact (present live).elim

/-- Where an event is heeded the replies come next. The line that they depend on is the one to which
the cursor was moved last. -/
theorem of_heeded (h : Follows removes s a l b) {past rest : List Minute} {r : Reception}
    (here : l = past ++ .receives s r :: rest) (live : r.live = true) :
    ∃ (a' : Outlook) (rest' : List Minute),
      a'.line = ((heeded s past).filterMap Reception.line?).getLastD a.line ∧
      rest = r.replies s a'.line ++ rest' ∧ Follows removes s (a'.after r) rest' b := by
  induction h generalizing past with
  | nothing => exact absurd here (by simp)
  | aside out _ ih =>
    cases past with
    | nil => exact absurd rfl ((List.cons.inj here).1 ▸ out)
    | cons x past =>
      obtain ⟨rfl, tail⟩ := List.cons.inj here
      rw [out.heeded_cons]
      exact ih tail
  | @heeds a b r' l present live' follows ih =>
    cases past with
    | nil =>
      obtain ⟨same, rfl⟩ := List.cons.inj here
      obtain ⟨-, rfl⟩ := Minute.receives.inj same
      exact ⟨a, l, rfl, rfl, follows⟩
    | cons x past =>
      obtain ⟨rfl, tail⟩ := List.cons.inj here
      -- No event is among the replies, so that this one is behind them.
      obtain ⟨later, rfl, split⟩ : ∃ later, past = r'.replies s a.line ++ later ∧
          l = later ++ .receives s r :: rest := by
        rcases List.append_eq_append_iff.1 tail with ⟨later, own, split⟩ | ⟨more, own, split⟩
        · exact ⟨later, own, split⟩
        · cases more with
          | nil => exact ⟨[], by rw [own, List.append_nil, List.append_nil], split.symm⟩
          | cons y more =>
            obtain ⟨rfl, -⟩ := List.cons.inj split
            exact absurd (own ▸ List.mem_append_right past List.mem_cons_self)
              (r'.not_mem_replies s a.line s r)
      obtain ⟨a', rest', line, rest⟩ := ih split
      refine ⟨a', rest', line.trans ?_, rest⟩
      rw [heeded_cons_of_live live', heeded_append, heeded_replies, List.nil_append,
        getLastD_lines_cons]
  | @late a b r' l ended late _ ih =>
    cases past with
    | nil =>
      obtain ⟨-, rfl⟩ := Minute.receives.inj (List.cons.inj here).1
      exact Bool.noConfusion (late.symm.trans live)
    | cons x past =>
      obtain ⟨rfl, tail⟩ := List.cons.inj here
      rw [heeded_cons_of_late late]
      exact ih tail
  | ends present _ ih =>
    cases past with
    | nil => exact Minute.noConfusion (List.cons.inj here).1
    | cons x past =>
      obtain ⟨rfl, tail⟩ := List.cons.inj here
      have found := ih tail
      exact found

/-- Behind the end of the document comes that of the session, and nothing more but that results are
taken away. -/
theorem of_closed (h : Follows removes s a l b) {past rest : List Minute} {r : Reception}
    (here : l = past ++ .receives s r :: rest) (live : r.live = true) (closed : r.event = .closed) :
    heeded s rest = [] ∧ asked s rest = [] ∧
      ∃ ids : List AnalyzerId, told s rest = .destroyed :: ids.map .resultsUpdated ∧
        (¬removes → ids = []) := by
  obtain ⟨a', rest', -, rfl, follows⟩ := h.of_heeded here live
  have gone : (a'.after r).gone = true := by
    rw [Outlook.after, closed]
  have none : r.attempts = [] := by
    rw [Reception.attempts, closed]
  have only : r.reports a'.line = [.destroyed] := by
    rw [Reception.reports, closed]
  obtain ⟨heeds, ids, tells, kept⟩ := follows.silent_of_gone gone
  refine ⟨?_, ?_, ids, ?_, kept⟩
  · rw [heeded_append, heeded_replies, heeds, List.nil_append]
  · rw [asked_append, asked_replies, none, follows.asked_eq, heeds]
    rfl
  · rw [told_append, told_replies, only, tells]
    rfl

end Follows

end LintHub
