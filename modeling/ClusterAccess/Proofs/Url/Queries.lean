import ClusterAccess.Url.Edit
import ClusterAccess.Proofs.Text.Numerals

/-!
# Queries as pairs

A query is read as names with their values: pieces between ampersands, each cut at its first equals
sign. What is added to a query adds its pairs behind those that are there.

## Main definitions

* `Url.pairs`: the names and values of a query.

## Main statements

* `Url.pairs_appendQuery`: the pairs of a query that is added to.
* `Url.pairsOf_append`: the pairs of a query in two parts.
* `Url.pairsOf_piece`: the pair of a name and a value.
-/
namespace ClusterAccess.Url

/-- The name and the value of a piece of a query, cut at the first equals sign. -/
def pairOf (piece : List Char) : String × String :=
  (String.ofList (piece.takeWhile (· != '=')), String.ofList ((piece.dropWhile (· != '=')).drop 1))

/-- The pairs of a query. Empty pieces are passed over. -/
def pairsOf (query : List Char) : List (String × String) :=
  ((query.splitOn '&').filter (!·.isEmpty)).map pairOf

/-- The names and values in the query of a URL. -/
def pairs (u : Url) : List (String × String) := pairsOf (u.query.getD "").toList

theorem pairsOf_append (query more : List Char) :
    pairsOf (query ++ '&' :: more) = pairsOf query ++ pairsOf more := by
  simp only [pairsOf, List.splitOn_append_cons_self, List.filter_append, List.map_append]

/-- A piece by itself is one pair. -/
theorem pairsOf_piece {name value : List Char} (whole : ∀ c ∈ name, c ≠ '&' ∧ c ≠ '=')
    (tail : '&' ∉ value) : pairsOf (name ++ '=' :: value) =
      [(String.ofList name, String.ofList value)] := by
  have piece : '&' ∉ name ++ '=' :: value := by
    intro mem
    rcases List.mem_append.mp mem with inName | inValue
    · exact (whole _ inName).1 rfl
    · exact tail (List.mem_of_ne_of_mem (by decide) inValue)
  have before : ∀ c ∈ name, (c != '=') = true := fun c mem => bne_iff_ne.mpr (whole c mem).2
  rw [pairsOf, List.splitOn_eq_singleton piece, List.filter_cons_of_pos (by simp), List.filter_nil,
    List.map_singleton, pairOf, List.takeWhile_append_of_pos before,
    List.dropWhile_append_of_pos before]
  simp

/-- What is added to a query comes behind the pairs that are there. -/
theorem pairs_appendQuery (u : Url) (more : String) :
    (u.appendQuery more).pairs = u.pairs ++ pairsOf more.toList := by
  unfold pairs appendQuery
  cases u.query with
  | none => rfl
  | some q =>
    by_cases empty : q.isEmpty
    · rw [String.isEmpty_iff] at empty
      subst empty
      rfl
    · simp only [Option.getD_some, empty, Bool.false_eq_true, if_false, String.toList_append]
      rw [List.append_assoc]
      exact pairsOf_append q.toList more.toList

end ClusterAccess.Url
