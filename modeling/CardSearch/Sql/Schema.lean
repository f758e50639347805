import CardSearch.Query.Vocabulary

/-!
The relations that a search reads. Cards are `c`; notes `n`, decks `d` and the tags `nt.slugs` are
joined to them, each with at most one row for a card.
-/

namespace CardSearch.Sql

inductive Join where
  | note
  | deck
  | noteTags
  deriving DecidableEq, Repr

namespace Join

def sql : Join → String
  | .note => "JOIN notes n ON n.id = c.note_id"
  | .deck => "JOIN decks d ON d.id = c.deck_id"
  | .noteTags =>
    "LEFT JOIN LATERAL (SELECT array_agg(t.slug) AS slugs FROM note_tags nt0 JOIN tags t ON " ++
      "t.id = nt0.tag_id WHERE nt0.note_id = c.note_id) nt ON TRUE"

def union (joins more : List Join) : List Join :=
  joins ++ more.filter (· ∉ joins)

end Join

/-- The forgetting curve: the chance of recall from the days since the last review and the
stability. A card without reviews has none. -/
def retrievability : String :=
  "power(1.0 + (19.0 / 81.0) * (EXTRACT(EPOCH FROM (now() - (SELECT max(rl.reviewed_at) FROM " ++
    "review_logs rl WHERE rl.card_id = c.id))) / 86400.0) / NULLIF(c.stability, 0), -0.5)"

def columnOf : Query.Property → String
  | .interval => "c.interval"
  | .lapses => "c.lapses"
  | .ease => "c.ease"
  | .reps => "c.reps"
  | .stability => "c.stability"
  | .retrievability => retrievability
  | .difficulty => "c.difficulty"

end CardSearch.Sql
