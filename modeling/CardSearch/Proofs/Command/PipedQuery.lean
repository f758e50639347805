import CardSearch.Command.Outcome
import CardSearch.Proofs.Query.TrailingBlanks

/-!
A query from the input. It loses the blanks at its end before it is read, wherever they stand, be it
in a quote that is never closed. A report on it is still the report on the query as an argument, or
both fail for the same reason.
-/

namespace CardSearch

theorem Text.exists_trimEnd (text : String) :
    ∃ blanks : String, blanks.toList.all isBlank ∧ text = trimEnd text ++ blanks := by
  refine ⟨String.ofList (text.toList.reverse.takeWhile isBlank).reverse, ?_, ?_⟩
  · rw [String.toList_ofList, List.all_reverse]
    exact List.all_takeWhile
  · rw [← String.toList_inj, String.toList_append, trimEnd, String.toList_ofList,
      String.toList_ofList, ← List.reverse_append, List.takeWhile_append_dropWhile,
      List.reverse_reverse]

namespace Query

/-- Two results are the same, or errors with one fault and so with one cause. They may differ in
where the fault is. -/
inductive Alike {ε α : Type} (failure : SyntaxError → ε) : Except ε α → Except ε α → Prop where
  | ok (value : α) : Alike failure (.ok value) (.ok value)
  | error {one other : SyntaxError} (same : one.fault = other.fault) :
      Alike failure (.error (failure one)) (.error (failure other))

theorem alike_iff {α : Type} {one other : Except SyntaxError α} :
    Alike id one other ↔
      one.mapError SyntaxError.fault = other.mapError SyntaxError.fault := by
  constructor
  · intro alike
    cases alike with
    | ok value => rfl
    | error same => exact congrArg Except.error same
  · intro same
    cases one with
    | error error =>
      cases other with
      | error other => exact .error (Except.error.inj same)
      | ok => cases same
    | ok value =>
      cases other with
      | error => cases same
      | ok other =>
        obtain rfl := Except.ok.inj same
        exact .ok value

namespace Alike

variable {α β ε : Type}

theorem map {failure : SyntaxError → ε} {one other : Except ε α} (alike : Alike failure one other)
    (change : α → β) : Alike failure (one.map change) (other.map change) := by
  cases alike with
  | ok value => exact .ok (change value)
  | error same => exact .error same

theorem mapError {one other : Except SyntaxError α} (alike : Alike id one other)
    (failure : SyntaxError → ε) : Alike failure (one.mapError failure) (other.mapError failure) := by
  cases alike with
  | ok value => exact .ok value
  | error same => exact .error same

end Alike

theorem alike_append_blanks (query : String) {blanks : String}
    (blank : blanks.toList.all Text.isBlank) :
    Alike id (Filter.ofQuery (query ++ blanks)) (Filter.ofQuery query) :=
  alike_iff.2 (Filter.ofQuery_append_blanks query blank)

theorem alike_trimEnd (query : String) :
    Alike id (Filter.ofQuery query) (Filter.ofQuery (Text.trimEnd query)) := by
  obtain ⟨blanks, blank, split⟩ := Text.exists_trimEnd query
  have alike := alike_append_blanks (Text.trimEnd query) blank
  rwa [← split] at alike

end Query

namespace Command

open CardSearch.Query

theorem queryText_toUTF8 (text : String) :
    queryText none text.toUTF8 = .ok (Text.trimEnd text) := by
  have decodes : String.fromUTF8? text.toUTF8 = some text := by
    rw [String.toUTF8_eq_toByteArray, String.fromUTF8?, dif_pos text.isValidUTF8]
    rfl
  rw [queryText, decodes]

theorem perform_report (kind : Report.Kind) (layout : Json.Layout) {given : Option String}
    {input : ByteArray} {query : String} (found : queryText given input = .ok query) :
    (Task.report kind layout given).perform input =
      ((Report.ofQuery kind query).map fun report => report.print layout ++ "\n").mapError
        .query := by
  have performed : (Task.report kind layout given).perform input =
      (queryText given input).bind fun query =>
        (printReport kind layout query).map (· ++ "\n") := rfl
  rw [performed, found, Except.bind, printReport]
  cases Report.ofQuery kind query <;> rfl

theorem alike_report {kind : Report.Kind} (deep : kind ≠ .tokens) {one other : String}
    (alike : Alike id (Filter.ofQuery one) (Filter.ofQuery other)) :
    Alike id (Report.ofQuery kind one) (Report.ofQuery kind other) := by
  cases kind with
  | tokens => exact absurd rfl deep
  | tree => exact alike.map Report.ofFilter
  | sql offset => exact alike.map fun filter => Report.ofPredicate (.ofFilter offset filter)

/-- Blanks at the end of a query do not matter. So a query from the input, with any blanks behind
it, has the same tree and the same condition printed as the query given as an argument, or both fail
for the same reason. -/
theorem trailing_blanks_irrelevant :
    (∀ query blanks : String, blanks.toList.all Text.isBlank →
      Alike id (Filter.ofQuery (query ++ blanks)) (Filter.ofQuery query)) ∧
    (∀ query, Alike id (Filter.ofQuery query) (Filter.ofQuery (Text.trimEnd query))) ∧
    ∀ (kind : Report.Kind) (layout : Json.Layout) (query blanks : String) (input : ByteArray),
      kind ≠ .tokens → blanks.toList.all Text.isBlank →
        Alike CommandFault.query ((Task.report kind layout (some query)).perform input)
          ((Task.report kind layout none).perform (query ++ blanks).toUTF8) := by
  refine ⟨fun query blanks => alike_append_blanks query, alike_trimEnd, ?_⟩
  intro kind layout query blanks input deep blank
  rw [perform_report kind layout rfl, perform_report kind layout (queryText_toUTF8 _)]
  have same : (Filter.ofQuery query).mapError SyntaxError.fault =
      (Filter.ofQuery (Text.trimEnd (query ++ blanks))).mapError SyntaxError.fault :=
    calc
      _ = (Filter.ofQuery (query ++ blanks)).mapError SyntaxError.fault :=
        (Filter.ofQuery_append_blanks query blank).symm
      _ = _ := alike_iff.1 (alike_trimEnd (query ++ blanks))
  exact ((alike_report deep (alike_iff.2 same)).map _).mapError _

theorem trailing_blanks_irrelevant_dash_and_quote :
    let parse (query : Option String) := Task.report .tree .compact query
    let blanks := "\u2003\n"
    let text := "\x7b\"node\":\"text\",\"value\":\x7b\"field\":null,\"value\":\"-\"\x7d\x7d\n"
    let error : SyntaxError := ⟨.unclosedQuote, "\"x\\", 4⟩
    blanks.toList.all Text.isBlank ∧
      (parse (some "-")).perform .empty = .ok text ∧
      (parse none).perform ("-" ++ blanks).toUTF8 = .ok text ∧
      (parse (some "-(w:\"x\\")).perform .empty = .error (.query error) ∧
      ∃ other : SyntaxError, other.fault = .unclosedQuote ∧
        (parse none).perform ("-(w:\"x\\" ++ blanks).toUTF8 = .error (.query other) := by
  intro parse blanks text error
  have agree (query : String) := trailing_blanks_irrelevant.2.2 .tree .compact query blanks .empty
    (by decide) (by decide)
  have read : Filter.ofQuery "-" = .ok (.leaf (.text "-" none)) := by cbv
  have printed : (Report.ofFilter (.leaf (.text "-" none))).print .compact ++ "\n" = text := by
    decide
  have dash : (parse (some "-")).perform .empty = .ok text := by
    rw [perform_report .tree .compact rfl, Report.ofQuery, read, ← printed]
    rfl
  have unread : Filter.ofQuery "-(w:\"x\\" = .error error := by cbv
  have quote : (parse (some "-(w:\"x\\")).perform .empty = .error (.query error) := by
    rw [perform_report .tree .compact rfl, Report.ofQuery, unread]
    rfl
  refine ⟨by decide, dash, ?_, quote, ?_⟩
  · have alike := agree "-"
    rw [dash] at alike
    generalize (parse none).perform _ = piped at alike
    cases alike
    rfl
  · have alike := agree "-(w:\"x\\"
    rw [quote] at alike
    generalize (parse none).perform _ = piped at alike ⊢
    cases alike with
    | error same => exact ⟨_, same.symm, rfl⟩

end Command

end CardSearch
