import RelMachine.Program.Query

/-!
# Statements

Statements control when queries run.  A statement finishes with a truth value;
false ends the sequence and the innermost loop around it.
-/

namespace RelMachine

/-- The control layer around queries. -/
inductive Statement : Type where
  /-- Runs statements in order until one finishes with false. -/
  | sequence (body : List Statement)
  /-- Runs independent statements, all of them. -/
  | parallel (branches : List Statement)
  /-- Repeats a statement until it finishes with false. -/
  | loop (body : Statement)
  /-- Finishes with false when the condition holds. -/
  | exit (condition : Condition)
  | query (query : Query)
  /-- Exchanges the contents of two relations. -/
  | swap (left right : String)
  /-- Inserts every tuple of the source into the target. -/
  | merge (source target : String)
  /-- Closes an equivalence relation under the classes of the target that it
  touches, and then merges it into the target. -/
  | extend (source target : String)
  | clear (relation : String)
  /-- Runs a subroutine of the program. -/
  | call (name : String)
  /-- Times a statement, and with a relation reports its size afterwards. -/
  | timer (message : String) (relation : Option String) (body : Statement)
  /-- Reports the size of a relation. -/
  | sizeLog (message relation : String)
  /-- Attaches a message to a statement. -/
  | debug (message : String) (body : Statement)
  deriving Inhabited, Repr

namespace Statement

/-- Kind of the node at the root. -/
def kind : Statement → NodeKind
  | sequence _ => .sequence
  | parallel _ => .parallel
  | loop _ => .loop
  | exit _ => .exit
  | query _ => .query
  | swap _ _ => .swap
  | merge _ _ => .merge
  | extend _ _ => .extend
  | clear _ => .clear
  | call _ => .call
  | timer _ none _ => .timer
  | timer _ (some _) _ => .relationTimer
  | sizeLog _ _ => .sizeLog
  | debug _ _ => .debug

/-- The statements directly below the root. -/
def children : Statement → List Statement
  | sequence body | parallel body => body
  | loop body | timer _ _ body | debug _ body => [body]
  | _ => []

mutual

/-- The nodes of a statement, parents before their children. -/
def nodes : Statement → List Statement
  | sequence body => sequence body :: nodesList body
  | parallel branches => parallel branches :: nodesList branches
  | loop body => loop body :: nodes body
  | timer message relation body => timer message relation body :: nodes body
  | debug message body => debug message body :: nodes body
  | s => [s]

/-- The nodes of several statements, one after the other. -/
def nodesList : List Statement → List Statement
  | [] => []
  | s :: rest => nodes s ++ nodesList rest

end

/-- The queries of a statement, in the order of its nodes. -/
def queries (s : Statement) : List Query :=
  s.nodes.filterMap fun node => match node with
    | query q => some q
    | _ => none

/-- The conditions of exits and of queries, in the order of the nodes. -/
def conditions (s : Statement) : List Condition :=
  s.nodes.flatMap fun node => match node with
    | exit condition => [condition]
    | query q => q.conditions
    | _ => []

mutual

/-- The statement with every query replaced. -/
def mapQueries (f : Query → Query) : Statement → Statement
  | query q => query (f q)
  | sequence body => sequence (mapQueriesList f body)
  | parallel branches => parallel (mapQueriesList f branches)
  | loop body => loop (mapQueries f body)
  | timer message relation body => timer message relation (mapQueries f body)
  | debug message body => debug message (mapQueries f body)
  | exit condition => exit condition
  | swap left right => swap left right
  | merge source target => merge source target
  | extend source target => extend source target
  | clear relation => clear relation
  | call name => call name
  | sizeLog message relation => sizeLog message relation

/-- Several statements with every query replaced. -/
def mapQueriesList (f : Query → Query) : List Statement → List Statement
  | [] => []
  | s :: rest => mapQueries f s :: mapQueriesList f rest

end

mutual

/-- The statement with every query replaced, in the order of the nodes, by a
replacement with effects. -/
def mapQueriesM {m : Type → Type} [Monad m] (f : Query → m Query) : Statement → m Statement
  | query q => return query (← f q)
  | sequence body => return sequence (← mapQueriesListM f body)
  | parallel branches => return parallel (← mapQueriesListM f branches)
  | loop body => return loop (← mapQueriesM f body)
  | timer message relation body => return timer message relation (← mapQueriesM f body)
  | debug message body => return debug message (← mapQueriesM f body)
  | exit condition => return exit condition
  | swap left right => return swap left right
  | merge source target => return merge source target
  | extend source target => return extend source target
  | clear relation => return clear relation
  | call name => return call name
  | sizeLog message relation => return sizeLog message relation

/-- Several statements with every query replaced, by a replacement with effects. -/
def mapQueriesListM {m : Type → Type} [Monad m] (f : Query → m Query) :
    List Statement → m (List Statement)
  | [] => return []
  | s :: rest => do
    let first ← mapQueriesM f s
    return first :: (← mapQueriesListM f rest)

end

/-! ## Equality -/

mutual

/-- Whether two statements are the same. -/
def same : Statement → Statement → Bool
  | sequence a, sequence b => sameList a b
  | parallel a, parallel b => sameList a b
  | loop a, loop b => same a b
  | exit c, exit d => c == d
  | query q, query r => q == r
  | swap a b, swap c d => a == c && b == d
  | merge a b, merge c d => a == c && b == d
  | extend a b, extend c d => a == c && b == d
  | clear a, clear b => a == b
  | call a, call b => a == b
  | timer m r a, timer n s b => m == n && r == s && same a b
  | sizeLog m r, sizeLog n s => m == n && r == s
  | debug m a, debug n b => m == n && same a b
  | _, _ => false

/-- Whether two lists of statements are the same. -/
def sameList : List Statement → List Statement → Bool
  | [], [] => true
  | s :: ss, t :: ts => same s t && sameList ss ts
  | _, _ => false

end

mutual

theorem same_iff : ∀ s t : Statement, same s t = true ↔ s = t
  | sequence a, t => by cases t <;> simp [same, sameList_iff a]
  | parallel a, t => by cases t <;> simp [same, sameList_iff a]
  | loop a, t => by cases t <;> simp [same, same_iff a]
  | exit _, t => by cases t <;> simp [same]
  | query _, t => by cases t <;> simp [same]
  | swap _ _, t => by cases t <;> simp [same]
  | merge _ _, t => by cases t <;> simp [same]
  | extend _ _, t => by cases t <;> simp [same]
  | clear _, t => by cases t <;> simp [same]
  | call _, t => by cases t <;> simp [same]
  | timer _ _ a, t => by cases t <;> simp [same, same_iff a, and_assoc]
  | sizeLog _ _, t => by cases t <;> simp [same]
  | debug _ a, t => by cases t <;> simp [same, same_iff a]

theorem sameList_iff : ∀ ss ts : List Statement, sameList ss ts = true ↔ ss = ts
  | [], ts => by cases ts <;> simp [sameList]
  | s :: ss, ts => by cases ts <;> simp [sameList, same_iff s, sameList_iff ss]

end

instance : DecidableEq Statement := fun s t =>
  decidable_of_iff _ (same_iff s t)

end Statement

end RelMachine
