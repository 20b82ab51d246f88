import Mathlib.Data.List.Basic
import Mathlib.Logic.Function.Basic
import YieldAdapter.Accounting.ShareLedger

/-!
# Routers and their logs

A router lists venues, opens positions in them for their owners, and posts to the
positions' ledgers. It announces each of these as it does it. A log of announcements,
newest first, replays to a router if each line was due when it was announced; whether
it was, and the router that comes out, can be read off the lines before it.
-/

set_option autoImplicit false

namespace Accounting

/-- What one line of a log announces, over venues `α`, owners `ω` and positions `π`. -/
inductive Notice (α ω π : Type) where
  | listed (venue : α)
  | switched (venue : α) (active : Bool)
  | opened (position : π) (owner : ω) (venue : α)
  | served (position : π) (posting : Posting)
  deriving DecidableEq

/-- How a venue's positions are booked: not at all, with every burn covered, or with
burns that leave at least nothing. -/
inductive Rule where
  | unbooked
  | exact
  | capped
  deriving DecidableEq

/-- The switch of each listed venue, the owner and venue of each open position, and the
positions' ledgers. -/
@[ext] structure Router (α ω π : Type) where
  active : α → Option Bool
  routed : π → Option (ω × α)
  ledger : π → ShareLedger

instance (l : ShareLedger) : (posting : Posting) → Decidable (l.Covers posting)
  | .none => isTrue trivial
  | .mint _ => isTrue trivial
  | .burn shares => inferInstanceAs (Decidable (shares ≤ l.booked))

def Rule.book : Rule → ShareLedger → Posting → ShareLedger
  | .unbooked, l, _ => l
  | .exact, l, posting => l.post posting
  | .capped, l, posting => l.post posting

/-- The ledger that a list of postings leaves, newest first. -/
def Rule.replay (rule : Rule) (postings : List Posting) : ShareLedger :=
  postings.foldr (fun posting l => rule.book l posting) .empty

theorem Rule.replay_unbooked (postings : List Posting) :
    Rule.unbooked.replay postings = .empty := by
  induction postings with
  | nil => rfl
  | cons posting postings ih => exact ih

/-- What posts nothing can be left out. -/
theorem Rule.replay_filter (rule : Rule) (postings : List Posting) :
    rule.replay (postings.filter (· ≠ .none)) = rule.replay postings := by
  induction postings with
  | nil => rfl
  | cons posting postings ih =>
    rw [List.filter_cons]
    cases posting with
    | none =>
      rw [if_neg (by simp), ih]
      cases rule <;> rfl
    | mint shares | burn shares =>
      rw [if_pos (by simp)]
      exact congrArg (fun l => rule.book l _) ih

/-- A posting is known by what it adds to the record. -/
theorem ShareLedger.post_unique (l : ShareLedger) (posting posting' : Posting)
    (hminted : (l.post posting).minted = (l.post posting').minted)
    (hburned : (l.post posting).burned = (l.post posting').burned) :
    l.post posting = l.post posting' ∧ (l.Covers posting → l.Covers posting') := by
  obtain ⟨booked, minted, burned⟩ := l
  cases posting <;> cases posting' <;> grind [ShareLedger.post, ShareLedger.Covers]

namespace Notice

variable {α ω π : Type} [DecidableEq α] [DecidableEq π]

/-- The switch of `venue` after the line, if the line moves it. -/
def switch? (venue : α) : Notice α ω π → Option Bool
  | .listed a => if a = venue then some true else none
  | .switched a active => if a = venue then some active else none
  | .opened .. => none
  | .served .. => none

/-- What the line posts to `position`. -/
def posting? (position : π) : Notice α ω π → Option Posting
  | .served p posting => if p = position then some posting else none
  | _ => none

end Notice

namespace Router

variable {α ω π : Type} [DecidableEq α] [DecidableEq π]

/-- No venue is listed and no position is open. -/
def empty : Router α ω π := ⟨fun _ => none, fun _ => none, fun _ => .empty⟩

section Steps

variable (rule : α → Rule) (r : Router α ω π)

/-- The router can announce the line: a venue is listed once and switched once listed, a
position is opened once, and opened and served only where the venue is on. -/
def Due : Notice α ω π → Prop
  | .listed venue => r.active venue = none
  | .switched venue _ => (r.active venue).isSome = true
  | .opened position _ venue => r.routed position = none ∧ r.active venue = some true
  | .served position posting => ∃ route ∈ r.routed position, r.active route.2 = some true ∧
      (rule route.2 = .exact → (r.ledger position).Covers posting)

instance : DecidablePred (r.Due rule)
  | .listed _ => inferInstanceAs (Decidable (_ = _))
  | .switched _ _ => inferInstanceAs (Decidable (_ = _))
  | .opened .. => inferInstanceAs (Decidable (_ ∧ _))
  | .served .. => inferInstanceAs (Decidable (∃ route ∈ r.routed _, _))

/-- The router after the line. -/
def next : Notice α ω π → Router α ω π
  | .listed venue => { r with active := Function.update r.active venue (some true) }
  | .switched venue active => { r with active := Function.update r.active venue (some active) }
  | .opened position owner venue =>
      { r with routed := Function.update r.routed position (some (owner, venue)) }
  | .served position posting =>
      match r.routed position with
      | some (_, venue) =>
          { r with
            ledger :=
              Function.update r.ledger position ((rule venue).book (r.ledger position) posting) }
      | none => r

/-- The router a log leaves, each of its lines being due. -/
def replay : List (Notice α ω π) → Option (Router α ω π)
  | [] => some empty
  | notice :: log => (replay log).bind fun r =>
      if r.Due rule notice then some (r.next rule notice) else none

/-- The router a log leaves if its lines are taken as they come. -/
def read (log : List (Notice α ω π)) : Router α ω π :=
  log.foldr (fun notice r => r.next rule notice) empty

/-- Every line was due after the lines before it. -/
def Legal (log : List (Notice α ω π)) : Prop :=
  ∀ later notice earlier, log = later ++ notice :: earlier → (read rule earlier).Due rule notice

end Steps

section Rules

variable {rule : α → Rule} {r : Router α ω π} {log : List (Notice α ω π)} {notice : Notice α ω π}
variable {venue : α} {owner : ω} {position : π} {posting : Posting}

@[simp] theorem read_nil : read rule ([] : List (Notice α ω π)) = empty := rfl

@[simp] theorem read_cons : read rule (notice :: log) = (read rule log).next rule notice := rfl

@[simp] theorem next_served_active :
    (r.next rule (.served position posting)).active = r.active := by
  simp only [next]
  split <;> rfl

@[simp] theorem next_served_routed :
    (r.next rule (.served position posting)).routed = r.routed := by
  simp only [next]
  split <;> rfl

/-! ### Legal logs -/

theorem legal_nil : Legal rule ([] : List (Notice α ω π)) := by
  intro later notice earlier h
  simp at h

theorem legal_cons :
    Legal rule (notice :: log) ↔ Legal rule log ∧ (read rule log).Due rule notice := by
  constructor
  · intro h
    refine ⟨fun later n earlier hlog => h (notice :: later) n earlier ?_, h [] notice log rfl⟩
    rw [hlog, List.cons_append]
  · rintro ⟨hlegal, hdue⟩ later n earlier hlog
    rcases List.cons_eq_append_iff.mp hlog with ⟨-, hsplit⟩ | ⟨later', -, hlater⟩
    · obtain ⟨rfl, rfl⟩ := List.cons.inj hsplit
      exact hdue
    · exact hlegal later' n earlier hlater

theorem Legal.of_append (later : List (Notice α ω π)) {earlier : List (Notice α ω π)}
    (h : Legal rule (later ++ earlier)) : Legal rule earlier := by
  intro later' n earlier' hlog
  refine h (later ++ later') n earlier' ?_
  rw [hlog, List.append_assoc]

/-- A log replays exactly when it is legal, to the router it reads as. -/
theorem replay_eq_some : replay rule log = some r ↔ Legal rule log ∧ read rule log = r := by
  induction log generalizing r with
  | nil => simp [replay, legal_nil]
  | cons notice log ih =>
    simp only [replay, Option.bind_eq_some_iff, legal_cons, read_cons]
    constructor
    · rintro ⟨before, hbefore, hpost⟩
      obtain ⟨hlegal, rfl⟩ := ih.mp hbefore
      split_ifs at hpost with hdue
      exact ⟨⟨hlegal, hdue⟩, Option.some.inj hpost⟩
    · rintro ⟨⟨hlegal, hdue⟩, rfl⟩
      exact ⟨read rule log, ih.mpr ⟨hlegal, rfl⟩, by rw [if_pos hdue]⟩

/-! ### What a log says -/

/-- A venue's switch is where the last line about it left it. -/
theorem read_active (log : List (Notice α ω π)) (venue : α) :
    (read rule log).active venue = log.findSome? (·.switch? venue) := by
  induction log with
  | nil => rfl
  | cons notice log ih =>
    rw [read_cons, List.findSome?_cons, ← ih]
    cases notice with
    | listed a | switched a b =>
      simp only [next, Notice.switch?, Function.update_apply, eq_comm (a := venue)]
      split_ifs <;> rfl
    | opened p o a => rfl
    | served p posting => exact congrFun next_served_active venue

/-- The switch is on record exactly for the venues listed. -/
theorem Legal.listed_iff (h : Legal rule log) :
    ((read rule log).active venue).isSome = true ↔ .listed venue ∈ log := by
  induction log with
  | nil => simp [empty]
  | cons notice log ih =>
    obtain ⟨hlegal, hdue⟩ := legal_cons.mp h
    have ih := ih hlegal
    rw [read_cons, List.mem_cons]
    cases notice with
    | listed a =>
      simp only [next, Function.update_apply, Notice.listed.injEq]
      split_ifs with ha
      · simp [ha]
      · simp [ih, ha]
    | switched a b =>
      -- a switch is moved once its venue is listed
      have hlisted : ((read rule log).active a).isSome = true := hdue
      simp only [next, Function.update_apply, reduceCtorEq, false_or]
      split_ifs with ha
      · subst ha
        simp [← ih, hlisted]
      · exact ih
    | opened p o a => simpa [next] using ih
    | served p posting => simpa using ih

/-- A position is open as the one line that opened it says. -/
theorem Legal.routed_iff (h : Legal rule log) :
    (read rule log).routed position = some (owner, venue) ↔
      .opened position owner venue ∈ log := by
  induction log with
  | nil => simp [empty]
  | cons notice log ih =>
    obtain ⟨hlegal, hdue⟩ := legal_cons.mp h
    have ih := ih hlegal
    rw [read_cons, List.mem_cons]
    cases notice with
    | listed a | switched a b => simpa [next] using ih
    | opened p o a =>
      have hunrouted : (read rule log).routed p = none := hdue.1
      simp only [next, Function.update_apply, Notice.opened.injEq]
      split_ifs with hp
      · subst hp
        have hnew : ¬ .opened position owner venue ∈ log := by
          rw [← ih, hunrouted]
          simp
        simp [hnew, eq_comm]
      · simp [ih, hp]
    | served p posting => simpa using ih

/-- No line opens a position that an earlier one opened. -/
theorem Legal.opened_once {later earlier : List (Notice α ω π)}
    (h : Legal rule (later ++ .opened position owner venue :: earlier)) (o : ω) (a : α) :
    .opened position o a ∉ later ++ earlier := by
  intro hmem
  rcases List.mem_append.mp hmem with hlater | hearlier
  · obtain ⟨newer, older, rfl⟩ := List.append_of_mem hlater
    have hdue := h newer (.opened position o a) (older ++ .opened position owner venue :: earlier)
      (by simp)
    -- by then the position is open
    have hlegal : Legal rule (older ++ .opened position owner venue :: earlier) :=
      Legal.of_append (newer ++ [.opened position o a]) (by simpa using h)
    have hrouted := hlegal.routed_iff.mpr (List.mem_append_right older (.head earlier))
    rw [hdue.1] at hrouted
    simp at hrouted
  · have hdue := h later (.opened position owner venue) earlier rfl
    have hlegal : Legal rule earlier :=
      Legal.of_append (later ++ [.opened position owner venue]) (by simpa using h)
    have hrouted := hlegal.routed_iff.mpr hearlier
    rw [hdue.1] at hrouted
    simp at hrouted

/-! ### The ledgers -/

/-- A position that is not open has not been served. -/
theorem Legal.posting?_of_closed (h : Legal rule log)
    (hclosed : (read rule log).routed position = none) :
    log.filterMap (·.posting? position) = [] := by
  induction log with
  | nil => rfl
  | cons notice log ih =>
    obtain ⟨hlegal, hdue⟩ := legal_cons.mp h
    cases notice with
    | listed a | switched a b => simpa [Notice.posting?] using ih hlegal hclosed
    | opened p o a =>
      simp only [read_cons, next, Function.update_apply] at hclosed
      split_ifs at hclosed
      simpa [Notice.posting?] using ih hlegal hclosed
    | served p posting =>
      obtain ⟨route, hroute, -, -⟩ := hdue
      have hclosed' : (read rule log).routed position = none := by simpa using hclosed
      have hp : p ≠ position := by
        rintro rfl
        rw [Option.mem_def, hclosed'] at hroute
        simp at hroute
      simpa [Notice.posting?, hp] using ih hlegal hclosed'

/-- A position's ledger is what its own lines leave, whatever lies between them. -/
theorem Legal.ledger_eq (h : Legal rule log) :
    (read rule log).ledger position = ((read rule log).routed position).elim .empty fun route =>
      (rule route.2).replay (log.filterMap (·.posting? position)) := by
  induction log with
  | nil => rfl
  | cons notice log ih =>
    obtain ⟨hlegal, hdue⟩ := legal_cons.mp h
    have ih := ih hlegal
    rw [read_cons]
    cases notice with
    | listed a | switched a b => exact ih
    | opened p o a =>
      have hunserved := hlegal.posting?_of_closed hdue.1
      simp only [next, Function.update_apply]
      split_ifs with hp
      · subst hp
        rw [ih, hdue.1, List.filterMap_cons_none rfl, hunserved]
        rfl
      · simpa [Notice.posting?] using ih
    | served p posting =>
      obtain ⟨⟨owner, venue⟩, hroute, -, -⟩ := hdue
      rw [Option.mem_def] at hroute
      simp only [next, hroute, Function.update_apply, List.filterMap_cons, Notice.posting?]
      split_ifs with hp hp' hp'
      · subst hp
        rw [ih, hroute]
        rfl
      · exact absurd hp.symm hp'
      · exact absurd hp'.symm hp
      · exact ih

end Rules

end Router

end Accounting
