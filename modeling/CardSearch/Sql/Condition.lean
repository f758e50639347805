import CardSearch.Number.Power
import CardSearch.Query.Token
import CardSearch.Sql.Like
import CardSearch.Sql.Param
import CardSearch.Sql.Schema
import CardSearch.Sql.WholeWord

/-!
The condition of a single leaf. Its text is fixed by the kind of the leaf; the values of the leaf
are bound to slots in the text.
-/

namespace CardSearch.Sql

open CardSearch.Query (Leaf CardState DateWindow)

/-- A piece of a condition: fixed text, or a slot for one of the values of the leaf. -/
inductive Piece where
  | sql (text : String)
  | slot (index : Nat)
  deriving DecidableEq, Repr

/-- The placeholder of a value behind `offset` other values. Its number is counted in a word of 64
bits. -/
def placeholder (offset index : Nat) : String :=
  "$" ++ toString ((offset + index + 1) % Number.twoTo 64)

def Piece.render (offset : Nat) : Piece → String
  | .sql text => text
  | .slot index => placeholder offset index

structure Condition where
  pieces : List Piece
  params : List Param
  join : Option Join
  deriving DecidableEq, Repr

namespace Condition

def render (offset : Nat) (condition : Condition) : String :=
  String.join (condition.pieces.map (Piece.render offset))

def within (before after : String) (pieces : List Piece) : List Piece :=
  .sql before :: (pieces ++ [.sql after])

def someField (field : Option String) (test : (slot : Nat) → List Piece) (value : String) :
    Condition :=
  let pieces := match field with
    | none => test 0
    | some _ => .sql "lower(f.key) = lower(" :: .slot 0 :: .sql ") AND " :: test 1
  { pieces := within
      "EXISTS (SELECT 1 FROM jsonb_each_text(n.fields) AS f(key, value) WHERE " ")" pieces
    params := field.toList.map .text ++ [.text value]
    join := some .note }

def valueLike (slot : Nat) : List Piece :=
  [.sql "f.value ILIKE ", .slot slot]

def valueMatches (slot : Nat) : List Piece :=
  [.sql "f.value ~* ", .slot slot]

def valueLikeAccentless (slot : Nat) : List Piece :=
  [.sql "unaccent(f.value) ILIKE unaccent(", .slot slot, .sql ")"]

/-- What a pattern says about paths whose segments are separated by two colons: all that begin
alike, a path with everything below it, or one path. -/
inductive PathPattern where
  | beginning (start : String)
  | subtree (path : String)
  | exact (path : String)
  deriving DecidableEq, Repr

/-- Only a star at the end is special, alone or as the last segment. -/
def PathPattern.ofText (text : String) : PathPattern :=
  match text.toList.reverse with
  | '*' :: ':' :: ':' :: path => .subtree (String.ofList path.reverse)
  | '*' :: start => .beginning (String.ofList start.reverse)
  | _ => .exact text

def columnLike (column : String) : List Piece :=
  [.sql (column ++ " ILIKE "), .slot 0]

def inSubtree (column path : String) : List Piece × Param :=
  ([.sql ("(" ++ column ++ " ILIKE "), .slot 0, .sql (" OR " ++ column ++ " ILIKE ("), .slot 0,
    .sql " || '::%'))"], .text (Like.escape path))

/-- The condition that a path fits a pattern. With `descendants` a single path stands for its
subtree. -/
def pathLike (column : String) (descendants : Bool) : PathPattern → List Piece × Param
  | .beginning start => (columnLike column, .text (Like.beginning start))
  | .subtree path => inSubtree column path
  | .exact path =>
    if descendants then inSubtree column path else (columnLike column, .text (Like.escape path))

def ofTag (pattern : String) : Condition :=
  let (pieces, param) := pathLike "s.slug" false (.ofText pattern)
  ⟨within "EXISTS (SELECT 1 FROM unnest(nt.slugs) AS s(slug) WHERE " ")" pieces, [param],
    some .noteTags⟩

def ofDeck (path : String) : Condition :=
  let (pieces, param) := pathLike "d.path" true (.ofText path)
  ⟨pieces, [param], some .deck⟩

/-- A card has one status, and only an active card is due or in a learning state. -/
def ofState : CardState → Condition
  | .due =>
    ⟨[.sql "(c.due <= now() AND c.status = ", .slot 0, .sql ")"], [.text "active"], none⟩
  | .paused => ⟨[.sql "c.status = ", .slot 0], [.text "paused"], none⟩
  | .skipped => ⟨[.sql "c.status = ", .slot 0], [.text "skipped"], none⟩
  | cardType =>
    ⟨[.sql "(c.card_type = ", .slot 0, .sql " AND c.status = ", .slot 1, .sql ")"],
      [.text cardType.keyword, .text "active"], none⟩

/-- A rating matters only for a window of reviews. -/
def ofDate (window : DateWindow) : Condition :=
  let days := Param.integer window.days
  let reviewed := "EXISTS (SELECT 1 FROM review_logs rl WHERE rl.card_id = c.id AND " ++
    "rl.reviewed_at >= now() - ("
  match window.kind, window.rating with
  | .added, _ =>
    ⟨[.sql "c.created_at >= now() - (", .slot 0, .sql " * INTERVAL '1 day')"], [days], none⟩
  | .rated, none => ⟨[.sql reviewed, .slot 0, .sql " * INTERVAL '1 day'))"], [days], none⟩
  | .rated, some rating =>
    ⟨[.sql reviewed, .slot 0, .sql " * INTERVAL '1 day') AND rl.rating = ", .slot 1, .sql ")"],
      [days, .integer rating.number], none⟩

def ofLeaf : Leaf → Condition
  | .text value field => someField field valueLike (Like.containing value)
  | .phrase content => someField none valueLike (Like.containing content)
  | .regex pattern field => someField field valueMatches pattern
  | .wholeWord word => someField none valueMatches (WholeWord.pattern word)
  | .accentless value => someField none valueLikeAccentless (Like.containing value)
  | .tag pattern => ofTag pattern
  | .deck path => ofDeck path
  | .state state => ofState state
  | .flag number => ⟨[.sql "c.flag = ", .slot 0], [.integer number], none⟩
  | .property property comparison value =>
    ⟨[.sql (columnOf property ++ " " ++ comparison.symbol ++ " "), .slot 0], [.real value],
      none⟩
  | .date window => ofDate window

end Condition

end CardSearch.Sql
