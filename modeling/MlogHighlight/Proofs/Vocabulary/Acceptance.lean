import MlogHighlight.Output
import MlogHighlight.Proofs.Preparation
import MlogHighlight.Proofs.Vocabulary.Parsing

/-!
# What is accepted can be used

Sets made by hand may name a category or a transform that does not exist. The sets of a text that is
parsed never do, and this is all that a table needs to be built and to show any source text. Main
facts:

* `Vocabulary.usable_of_parse`: the sets of a text that is parsed;
* `RuleTable.exists_build`: the table for such sets;
* `RuleTable.Known.exists_render`: what such a table shows of a source text;
* `Vocabulary.exists_render_of_parse`: all of this together.
-/

namespace MlogHighlight

namespace RuleTable

/-! ## Building the table -/

theorem exists_rule {set : VocabularySet} (usable : set.Usable) :
    ∃ rule, VocabularySet.rule set = .ok rule := by
  rcases usable.transform with ⟨transform, htransform⟩
  exact ⟨⟨set.name, set.category, .members (set.members transform)⟩,
    by rw [VocabularySet.rule, htransform]⟩

theorem category_of_rule {set : VocabularySet} {rule : Rule} (h : VocabularySet.rule set = .ok rule) :
    rule.category = set.category := by
  unfold VocabularySet.rule at h
  split at h
  · simp at h
  · rw [← Except.ok.inj h]

/-- There is a table for sets that are usable, and all its categories exist. -/
theorem exists_build {sets : Vocabulary} (usable : ∀ set ∈ sets, set.Usable) :
    ∃ table, build sets = .ok table ∧ table.Known := by
  rcases exists_mapM_eq_ok fun set hset => exists_rule (usable set hset) with ⟨rules, hmap, hrules⟩
  have hbuild : build sets = .ok (structural ++ rules) := by
    rw [build, hmap]
    rfl
  have hknown : ∀ rule ∈ rules, ∃ category, Category.ofName? rule.category = some category := by
    refine forall_mem_of_forall₂ (P := fun rule =>
      ∃ category, Category.ofName? rule.category = some category) hrules ?_
    intro set hset rule hrule
    rw [category_of_rule hrule]
    exact (usable set hset).category
  refine ⟨structural ++ rules, hbuild, ?_⟩
  intro rule hrule
  rcases List.mem_append.mp hrule with hrule | hrule
  · exact known_structural rule hrule
  · exact hknown rule hrule

/-! ## Using the table -/

variable {table : RuleTable} {text : Text}

/-- The category of an annotation exists. -/
theorem Known.exists_category_of_mem_annotations (known : table.Known) {a : Annotation}
    (ha : a ∈ table.annotations text) : ∃ category, Category.ofName? a.category = some category := by
  rcases exists_rule_of_mem_annotations ha with ⟨-, rule, hrule, hcategory⟩
  rw [← hcategory]
  exact known rule hrule

/-- Without tab stops, the preparation of a text does not fail. -/
theorem exists_apply_default (text : Text) : ∃ prepared, Preparation.apply {} text = .ok prepared :=
  ⟨_, rfl⟩

theorem Known.exists_highlight (known : table.Known) (text : Text) :
    ∃ tokens, table.highlight {} text = .ok tokens := by
  rcases exists_apply_default text with ⟨prepared, hprepared⟩
  exact ⟨_, highlight_eq known hprepared⟩

/-- Every text is shown in every format. -/
theorem Known.exists_render (known : table.Known) (format : Format) (name text : Text) :
    ∃ shown, format.render table name text = .ok shown := by
  rcases known.exists_highlight text with ⟨tokens, htokens⟩
  cases format with
  | annotations => exact ⟨Listing.render table name text, rfl⟩
  | terminal => exact ⟨Terminal.render tokens, by rw [Format.render, htokens]; rfl⟩
  | html => exact ⟨Page.render name tokens, by rw [Format.render, htokens]; rfl⟩

end RuleTable

namespace Vocabulary

/-! ## What is parsed -/

/-- The sets of a text that is parsed have distinct names and are usable. -/
theorem usable_of_parse {s : Text} {sets : Vocabulary} (h : parse s = .ok sets) :
    (sets.map (·.name)).Nodup ∧ ∀ set ∈ sets, set.Usable := by
  rcases parseExpanded_eq_ok_iff_layout.mp h with ⟨layout, -, -, hnodup, rfl⟩
  refine ⟨hnodup, ?_⟩
  intro set hset
  rcases List.mem_map.mp hset with ⟨item, -, rfl⟩
  exact item.2.usable_set

/-- What is accepted can be used. The sets of a text that is parsed have distinct names, categories
and transforms that exist. So there is a table for them, and with this table the annotations of
every source text are of categories that exist, and the text has tokens and is shown in every
format. -/
theorem exists_render_of_parse {s : Text} {sets : Vocabulary} (h : parse s = .ok sets) :
    (sets.map (·.name)).Nodup ∧
      (∀ set ∈ sets, (∃ category, Category.ofName? set.category = some category) ∧
        ∃ transform, Naming.Transform.ofName? set.transform = some transform) ∧
      ∃ table, RuleTable.build sets = .ok table ∧ ∀ text : Text,
        (∀ l ∈ table.markLines text, ∀ a ∈ l.annotations,
          ∃ category, Category.ofName? a.category = some category) ∧
        (∃ tokens, table.tokens text = .ok tokens) ∧
        ∀ (format : Format) (name : Text), ∃ shown, format.render table name text = .ok shown := by
  rcases usable_of_parse h with ⟨hnodup, usable⟩
  rcases RuleTable.exists_build usable with ⟨table, hbuild, known⟩
  refine ⟨hnodup, ?_, table, hbuild, ?_⟩
  · intro set hset
    exact ⟨(usable set hset).category, (usable set hset).transform⟩
  · intro text
    refine ⟨?_, ?_, ?_⟩
    · intro l hl a ha
      exact known.exists_category_of_mem_annotations (List.mem_flatMap.mpr ⟨l, hl, ha⟩)
    · exact ⟨_, RuleTable.tokens_eq known text⟩
    · intro format name
      exact known.exists_render format name text

/-- Two sets with a word in common, one of them without a transform. -/
theorem exists_render_of_parse_two_sets :
    parse "a:type sigil\x7bx\x7d b:keyword\x7b@x jump\x7d" =
      .ok [⟨"a", "type", "sigil", ["x"]⟩, ⟨"b", "keyword", "none", ["@x", "jump"]⟩] ∧
    ∃ table, RuleTable.build
        [⟨"a", "type", "sigil", ["x"]⟩, ⟨"b", "keyword", "none", ["@x", "jump"]⟩] = .ok table ∧
      ∀ (text : Text) (format : Format) (name : Text),
        ∃ shown, format.render table name text = .ok shown := by
  have hparse : parse "a:type sigil\x7bx\x7d b:keyword\x7b@x jump\x7d" =
      .ok [⟨"a", "type", "sigil", ["x"]⟩, ⟨"b", "keyword", "none", ["@x", "jump"]⟩] := by decide
  rcases exists_render_of_parse hparse with ⟨-, -, table, hbuild, hshown⟩
  exact ⟨hparse, table, hbuild, fun text => (hshown text).2.2⟩

end Vocabulary

end MlogHighlight
