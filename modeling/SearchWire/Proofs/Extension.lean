import SearchWire.Proofs.Found

/-!
# Schemas that are extended

Look-up asks a schema what it declares under a name or before the first point of
the name, which template comes first, and whether other names are free. Templates
that are added behind the others answer only where none did, a field that is
added answers only for its own name and the names below it, and as no name is
declared twice the order of the fields decides nothing.
-/

namespace SearchWire

namespace Document

variable {first second : Document} {name : String}

-- ---------------------------------------------------------------------------
-- The same answers
-- ---------------------------------------------------------------------------

theorem declaredSub?_congr
    (same : ∀ head rest, splitName? name = some (head, rest) → second.declared? head = first.declared? head) :
    second.declaredSub? name = first.declaredSub? name := by
  unfold declaredSub?
  cases divided : splitName? name with
  | none => rfl
  | some parts =>
    obtain ⟨head, rest⟩ := parts
    simp [same head rest divided]

theorem field_congr (docType : second.docType = first.docType) (dynamic : second.dynamic = first.dynamic)
    (declared : second.declared? name = first.declared? name)
    (sub : second.declaredSub? name = first.declaredSub? name)
    (template : second.template? name = first.template? name) : second.field name = first.field name := by
  unfold field
  rw [declared, sub, template, docType, dynamic]

theorem validate_congr (docType : second.docType = first.docType) (dynamic : second.dynamic = first.dynamic)
    (types : ∀ name, second.type? name = first.type? name) (source : Json) :
    second.validate source = first.validate source := by
  cases source with
  | object members =>
    have member : second.validateMember = first.validateMember := by
      funext name value
      unfold validateMember
      rw [types, docType, dynamic]
    rw [validate_object, validate_object, member]
  | _ => simp [validate, docType]

-- ---------------------------------------------------------------------------
-- Extensions
-- ---------------------------------------------------------------------------

theorem template?_append {added : List Field} (templates : second.templates = first.templates ++ added)
    (matched : first.Matches name) : second.template? name = first.template? name := by
  obtain ⟨template, found⟩ := Option.isSome_iff_exists.mp (template?_isSome_iff.mpr matched)
  have found' : first.templates.find? (Glob.isMatch ·.name name) = some template := found
  rw [found, template?, templates, List.find?_append, found', Option.some_or]

theorem declared?_insert {before after : List Field} {added : Field} (fields : first.fields = before ++ after)
    (more : second.fields = before ++ added :: after) (other : name ≠ added.name) :
    second.declared? name = first.declared? name := by
  have passed : (added.name == name) = false := by simpa using Ne.symm other
  rw [declared?, declared?, fields, more, List.find?_append, List.find?_append, List.find?_cons, passed]

theorem declared?_eq_some_iff (distinct : (first.fields.map (·.name)).Nodup) {found : Field} :
    first.declared? name = some found ↔ found ∈ first.fields ∧ found.name = name := by
  constructor
  · exact declared?_eq_some
  · rintro ⟨mem, named⟩
    obtain ⟨other, known⟩ := Option.isSome_iff_exists.mp (declared?_isSome_iff.mpr ⟨found, mem, named⟩)
    obtain ⟨inside, same⟩ := declared?_eq_some known
    rw [known, List.inj_on_of_nodup_map distinct inside mem (same.trans named.symm)]

theorem declared?_perm (distinct : (first.fields.map (·.name)).Nodup) (perm : second.fields.Perm first.fields)
    (name : String) : second.declared? name = first.declared? name := by
  have distinct' : (second.fields.map (·.name)).Nodup := (perm.map _).nodup_iff.mpr distinct
  ext found
  rw [declared?_eq_some_iff distinct, declared?_eq_some_iff distinct', perm.mem_iff]

theorem exists_field (known : first.Declares name ∨ first.Dotted name ∨ first.Matches name) :
    ∃ field, first.field name = .ok field := by
  by_cases declares : first.Declares name
  · obtain ⟨declared, -, -, looked⟩ := field_of_declares declares
    exact ⟨declared, looked⟩
  · by_cases dotted : first.Dotted name
    · obtain ⟨declared, rest, looked, -⟩ := field_of_dotted declares dotted
      exact ⟨_, looked⟩
    · have matched := (known.resolve_left declares).resolve_left dotted
      obtain ⟨field, looked, -⟩ := (field_beyond_declared declares dotted).1 (.inl matched)
      exact ⟨field, looked⟩

/-- Where the fields are the same, whatever was found is found behind more templates too. -/
theorem field_append {added : List Field} (docType : second.docType = first.docType)
    (dynamic : second.dynamic = first.dynamic) (fields : second.fields = first.fields)
    (templates : second.templates = first.templates ++ added)
    (known : first.Declares name ∨ first.Dotted name ∨ first.Matches name) :
    second.field name = first.field name := by
  have declared (name : String) : second.declared? name = first.declared? name := by
    rw [declared?, declared?, fields]
  have sub := declaredSub?_congr fun head rest (_ : splitName? name = some (head, rest)) => declared head
  by_cases matched : first.Matches name
  · exact field_congr docType dynamic (declared name) sub (template?_append templates matched)
  · -- Nothing but a template depends on the templates, and none was asked for.
    unfold field
    rw [declared, sub]
    rcases known with declares | dotted | matches'
    · obtain ⟨found, here⟩ := Option.isSome_iff_exists.mp (declared?_isSome_iff.mpr declares)
      simp [here]
    · obtain ⟨found, here⟩ := Option.isSome_iff_exists.mp (declaredSub?_isSome_iff.mpr dotted)
      cases first.declared? name <;> simp [here]
    · exact absurd matches' matched

end Document

open Document (Draft)

/-- Two schemas of one name, both dynamic or neither. With templates added behind
those of the first, the second finds the same field under each name that is
declared, below a declared field or matched in the first. With one field more,
anywhere among the others, it finds the same, or fails in the same way, under each
name but that of the field and those below it. With its fields in another order it
finds the same under every name and judges every source alike. -/
theorem lookups_survive_extension {first second : Document} (made : first.Made)
    (docType : second.docType = first.docType) (dynamic : second.dynamic = first.dynamic) :
    (∀ added, second.fields = first.fields → second.templates = first.templates ++ added →
      ∀ name, first.Declares name ∨ first.Dotted name ∨ first.Matches name →
        ∃ field, first.field name = .ok field ∧ second.field name = .ok field) ∧
    (∀ before added after, first.fields = before ++ after → second.fields = before ++ added :: after →
      second.templates = first.templates →
        ∀ name, name ≠ added.name → (∀ rest, '.' ∉ added.name.toList → name ≠ added.name ++ "." ++ rest) →
          second.field name = first.field name) ∧
    (second.fields.Perm first.fields → second.templates = first.templates →
      (∀ name, second.field name = first.field name) ∧
      ∀ source, second.validate source = first.validate source) := by
  refine ⟨?_, ?_, ?_⟩
  · intro added fields templates name known
    obtain ⟨field, looked⟩ := Document.exists_field known
    exact ⟨field, looked, (Document.field_append docType dynamic fields templates known).trans looked⟩
  · intro before added after fields more templates name other below
    refine Document.field_congr docType dynamic (Document.declared?_insert fields more other) ?_ ?_
    · refine Document.declaredSub?_congr fun head rest divided => Document.declared?_insert fields more ?_
      rintro rfl
      obtain ⟨whole, pointless⟩ := Document.splitName?_eq_some_iff.mp divided
      exact below rest pointless whole
    · rw [Document.template?, Document.template?, templates]
  · intro perm templates
    have declared := Document.declared?_perm made.fields_nodup perm
    have template (name : String) : second.template? name = first.template? name := by
      rw [Document.template?, Document.template?, templates]
    constructor
    · intro name
      exact Document.field_congr docType dynamic (declared name)
        (Document.declaredSub?_congr fun head _ _ => declared head) (template name)
    · refine Document.validate_congr docType dynamic fun name => ?_
      rw [Document.type?, Document.type?, declared, template]

/-- A later template that matches everything, a field between two others that has
the beginning of a name, and the two in another order. -/
theorem lookups_survive_extension_post :
    let field (name : String) (type : FieldType) := (Field.typed name type).attachedTo "post"
    let post : Document := ⟨"post", false, [], [], [field "title" .text, field "tags" .keyword], [.typed "t*" .long]⟩
    let matching : Document := { post with templates := [.typed "t*" .long, .typed "*" .date] }
    let owned : Document := { post with fields := [field "title" .text, field "author" .keyword, field "tags" .keyword] }
    let turned : Document := { post with fields := [field "tags" .keyword, field "title" .text] }
    (∃ found, post.field "title.raw" = .ok found ∧ matching.field "title.raw" = .ok found) ∧
      (∃ found, post.field "total" = .ok found ∧ matching.field "total" = .ok found) ∧
      owned.field "authors" = .error (.unknownField "post" "authors") ∧
      turned.field "tags.raw" = .ok ((field "tags" .keyword).sub "raw") ∧
      turned.validate (.single "title" (.int 1)) = post.validate (.single "title" (.int 1)) := by
  intro field post matching owned turned
  have built : (Draft.ofCalls "post" [.field (.typed "title" .text), .field (.typed "tags" .keyword),
    .template (.typed "t*" .long)]).build = .ok post := rfl
  have made : post.Made := .built built
  have dotted : post.Dotted "title.raw" := ⟨"title", "raw", rfl, by decide, _, List.mem_cons_self, rfl⟩
  have matched : post.Matches "total" := ⟨_, List.mem_cons_self, by decide⟩
  have appended := (@lookups_survive_extension post matching made rfl rfl).1 [.typed "*" .date] rfl rfl
  have inserted := (@lookups_survive_extension post owned made rfl rfl).2.1 [field "title" .text] _ _ rfl rfl rfl
  have permuted := (@lookups_survive_extension post turned made rfl rfl).2.2 (.swap _ _ []) rfl
  refine ⟨appended _ (.inr (.inl dotted)), appended _ (.inr (.inr matched)), ?_, (permuted.1 _).trans rfl,
    permuted.2 _⟩
  refine (inserted "authors" (by decide) fun rest _ below => ?_).trans rfl
  have longer := congrArg (fun name : String => name.toList.drop 6) below
  simp [field, Field.attachedTo, Field.typed] at longer

end SearchWire
