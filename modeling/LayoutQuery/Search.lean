import LayoutQuery.Matching

/-! # Searches
A search tests every criterion on each layout of a feed and reports the layouts on which all hold.
A layout is taken from the feed before the limit is looked at, so a search that has found enough
stops only when it has taken one layout more, or when the feed ends. -/
namespace LayoutQuery

/-- What a search tests. A value that is no condition can be listed, but not tested. -/
inductive Criterion where
  | condition (c : Condition)
  | foreign (value : Json)

structure Unsupported where
  kind : String
  deriving DecidableEq, Repr

def Unsupported.message (e : Unsupported) : String := "Unsupported condition type: " ++ e.kind

namespace Criterion

def text : Criterion → String
  | .condition c => c.render
  | .foreign v => v.display

def test (l : Layout) : Criterion → Except Unsupported Bool
  | .condition c => .ok (decide (c.Holds l))
  | .foreign v => .error ⟨v.kind⟩

end Criterion

structure Search where
  criteria : List Criterion
  nonempty : criteria ≠ []

/-- Outcomes are kept under the text of their criterion; a text has one outcome. -/
structure Verdict where
  layout : String
  outcomes : Fields Bool
  deriving DecidableEq, Repr

def Verdict.matched (v : Verdict) : Bool := v.outcomes.all (·.2)

namespace Search

def ofList? : List Criterion → Option Search
  | [] => none
  | c :: rest => some ⟨c :: rest, by simp⟩

def emptyMessage : String := "At least one condition is required"

/-- Outcomes of the criteria in order, added to those of earlier ones. -/
def outcomes (l : Layout) : List Criterion → Fields Bool → Except Unsupported (Fields Bool)
  | [], done => .ok done
  | c :: rest, done => do
    let b ← c.test l
    outcomes l rest (Fields.put c.text b done)

def evaluate (s : Search) (l : Layout) : Except Unsupported Verdict := do
  let found ← outcomes l s.criteria []
  .ok ⟨l.name, found⟩

end Search

/-- Layouts to be searched, and the failure that ends them, if one does. -/
structure Feed (ε : Type) where
  layouts : List Layout
  failure : Option ε

def Feed.ofList {ε : Type} (layouts : List Layout) : Feed ε := ⟨layouts, none⟩

inductive Event where
  | started (conditions : List String) (limit : Option Int)
  | matched (layout : String)
  | finished (scanned matched : Nat)
  deriving DecidableEq, Repr

/-- How a run ended: with its hits, by a failure of its feed, or by a criterion that cannot be
tested. -/
inductive Ending (ε : Type) where
  | found (hits : List Verdict)
  | broken (failure : ε)
  | unsupported (e : Unsupported)

/-- What a run did: its ending, its log, and how much it took from the feed. The feed is drained
when the run saw its end. -/
structure Run (ε : Type) where
  ending : Ending ε
  log : List Event
  taken : Nat
  drained : Bool

namespace Search

def reached (limit : Option Int) (hits : Nat) : Bool :=
  match limit with
  | none => false
  | some n => n ≤ (hits : Int)

/-- Goes on with a run that has scanned `scanned` layouts and found `hits`, the latest first. The
result's log holds what is logged from here on. -/
def scan {ε : Type} (s : Search) (limit : Option Int) (failure : Option ε) :
    List Layout → Nat → List Verdict → Run ε
  | [], scanned, hits =>
    match failure with
    | some e => ⟨.broken e, [], scanned, true⟩
    | none => ⟨.found hits.reverse, [.finished scanned hits.length], scanned, true⟩
  | l :: rest, scanned, hits =>
    if reached limit hits.length then
      ⟨.found hits.reverse, [.finished scanned hits.length], scanned + 1, false⟩
    else
      match s.evaluate l with
      | .error e => ⟨.unsupported e, [], scanned + 1, false⟩
      | .ok v =>
        if v.matched then
          let run := scan s limit failure rest (scanned + 1) (v :: hits)
          { run with log := .matched l.name :: run.log }
        else scan s limit failure rest (scanned + 1) hits

def run {ε : Type} (s : Search) (limit : Option Int) (feed : Feed ε) : Run ε :=
  let run := s.scan limit feed.failure feed.layouts 0 []
  { run with log := .started (s.criteria.map Criterion.text) limit :: run.log }

end Search

end LayoutQuery
