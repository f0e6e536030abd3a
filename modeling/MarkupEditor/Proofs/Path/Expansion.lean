import MarkupEditor.Path.Expansion

/-!
# Expanding a path

Expansion asks only for the variables that the path names, and a path without dollar signs names
none: then a tilde at the start is all that is replaced. Expanding such a path again may find a new
tilde, if the home directory itself starts with one before a slash.
-/

namespace MarkupEditor.Path

section Values

variable {valueOf other : Text → Option Text} {home? : Option Text} {path : Text}

theorem fill_congr {pieces : List Piece}
    (hvalues : ∀ name default?, .value name default? ∈ pieces → valueOf name = other name) :
    fill valueOf pieces = fill other pieces := by
  induction pieces with
  | nil => rfl
  | cons piece pieces ih =>
      obtain ⟨hpiece, hrest⟩ : (∀ name default?, piece = .value name default? →
          valueOf name = other name) ∧ fill valueOf pieces = fill other pieces := by
        refine ⟨fun name default? heq => hvalues name default? (by simp [heq]), ih ?_⟩
        exact fun name default? hmem => hvalues name default? (List.mem_cons_of_mem _ hmem)
      cases piece with
      | character c => rw [fill, fill, hrest]
      | value name default? => rw [fill, fill, hrest, hpiece name default? rfl]

theorem mem_variableNames {name : Text} {default? : Option Text}
    (hmem : .value name default? ∈ pieces path) : name ∈ variableNames path :=
  List.mem_filterMap.mpr ⟨_, hmem, rfl⟩

theorem expand_congr (hvalues : ∀ name ∈ variableNames path, valueOf name = other name) :
    expand valueOf home? path = expand other home? path := by
  have hfill : fill valueOf (pieces path) = fill other (pieces path) :=
    fill_congr fun name default? hmem => hvalues name (mem_variableNames hmem)
  rw [expand, expand, hfill]

end Values

/-! ### Paths without variables -/

section Plain

variable {valueOf : Text → Option Text} {path home rest : Text}

theorem pieces_of_dollar_not_mem (hdollar : '$' ∉ path) : pieces path = path.map .character := by
  induction path with
  | nil => rfl
  | cons c path ih =>
      rw [List.mem_cons, not_or] at hdollar
      rw [pieces, piecesFrom, if_neg (Ne.symm hdollar.1), List.map_cons]
      exact congrArg _ (ih hdollar.2)

theorem fill_map_character (text : Text) : fill valueOf (text.map .character) = some text := by
  induction text with
  | nil => rfl
  | cons c text ih => rw [List.map_cons, fill, ih, Option.map_some]

theorem expand_of_dollar_not_mem (hdollar : '$' ∉ path) (home? : Option Text) :
    expand valueOf home? path = expandHome home? path := by
  rw [expand, pieces_of_dollar_not_mem hdollar, fill_map_character]
  exact if_neg fun htilde => htilde.1 htilde.2

theorem expandHome_eq_self {home? : Option Text} (htilde : path ≠ ['~'])
    (hslash : ¬['~', '/'] <+: path) : expandHome home? path = path := by
  unfold expandHome
  split
  · exact absurd rfl htilde
  · exact absurd ⟨_, rfl⟩ hslash
  · rfl

/-- Behind the home directory there is a slash, so only a home directory that starts with a tilde
and a slash is taken for a path to expand. The tilde alone stands for itself then. -/
theorem expandHome_append_eq_iff :
    expandHome (some home) (home ++ '/' :: rest) = home ++ '/' :: rest ↔
      ¬['~', '/'] <+: home := by
  constructor
  · rintro hsame ⟨inner, rfl⟩
    have hlength := congrArg List.length hsame
    simp [expandHome] at hlength
    omega
  · intro hhome
    by_cases htilde : home = ['~']
    · rw [htilde]
      rfl
    · apply expandHome_eq_self
      · cases home with
        | nil => simp
        | cons c home => simp
      · match home with
        | [] => simp [List.cons_prefix_cons]
        | [c] =>
            have hc : '~' ≠ c := by
              rintro rfl
              exact htilde rfl
            simp [List.cons_prefix_cons, hc]
        | c :: d :: home => simpa [List.cons_prefix_cons] using hhome

end Plain

end MarkupEditor.Path
