import Querent.Proofs.Sql.Ensures
import Querent.Sql.Gateway

/-!
# Harmless tokens

Tokens are *harmless* when none of them spells a forbidden word, and they stay so when tokens are
taken off the front.  A parser never finds a forbidden word among them.
-/

namespace Querent.Sql

/-- Whether no token spells a forbidden word. -/
def Harmless (tokens : List Located) : Prop :=
  ∀ located ∈ tokens, ∀ word ∈ forbiddenWords, located.token.isKeyword word = false

instance : Lasts Harmless where
  suffix harmless ends := fun located member => harmless located (ends.subset member)

namespace Parser

variable {α : Type} {dialect : Dialect} {safe : List Located → Prop} {post : α → Prop}
  (harmless : ∀ {tokens}, safe tokens → Harmless tokens)

include harmless

/-- A forbidden word is never found. -/
theorem ensures_keyword_forbidden {word : Keyword} (forbidden : word ∈ forbiddenWords) :
    Ensures dialect safe (fun found => found = false) (keyword word) := by
  refine .step .get fun tokens isSafe => ?_
  split
  next located rest =>
    have absent := harmless isSafe located List.mem_cons_self word forbidden
    exact .ite (fun present => absurd present (by simp [absent])) fun _ => .pure rfl
  next => exact .pure rfl

/-- Nothing comes after a forbidden word that must be there. -/
theorem ensures_expectKeyword_forbidden [Lasts safe] {word : Keyword}
    (forbidden : word ∈ forbiddenWords) :
    Ensures dialect safe (fun _ => False) (expectKeyword word) := by
  refine .step (ensures_keyword_forbidden harmless forbidden) fun found absent => ?_
  subst absent
  exact ensures_expected _

/-- A word that is found is one of those looked for and not forbidden. -/
theorem ensures_oneOf [Lasts safe] (words : List Keyword) :
    Ensures dialect safe (fun found => ∀ word ∈ found, word ∈ words ∧ word ∉ forbiddenWords)
      (oneOf words) := by
  have spelled : Ensures dialect safe
      (fun found : Option Located => ∀ word ∈ found.bind (·.token.keyword?),
        word ∉ forbiddenWords) peek := by
    refine .step .get fun tokens isSafe => .pure ?_
    intro word isWord forbidden
    obtain ⟨located, isHead, spells⟩ := Option.bind_eq_some_iff.1 isWord
    have absent := harmless isSafe located (List.mem_of_mem_head? isHead) word forbidden
    simp [Token.isKeyword, spells] at absent
  refine .step spelled fun found allowed => ?_
  split
  next word isWord =>
    refine .ite (fun listed => ?_) fun _ => .pure fun _ found => absurd found (Option.not_mem_none _)
    refine .skip fun _ => .pure ?_
    rintro _ ⟨⟩
    exact ⟨by simpa using listed, allowed word isWord⟩
  next => exact .pure fun _ found => absurd found (Option.not_mem_none _)

theorem ensures_expectOneOf [Lasts safe] (words : List Keyword) :
    Ensures dialect safe (fun word => word ∈ words ∧ word ∉ forbiddenWords)
      (expectOneOf words) := by
  refine .step (ensures_oneOf harmless words) fun found holds => ?_
  split
  · exact .pure (holds _ rfl)
  · exact ensures_expected _

end Parser

end Querent.Sql
