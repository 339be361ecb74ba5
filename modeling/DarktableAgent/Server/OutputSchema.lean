import DarktableAgent.Foundation.JsonPaths

/-! `build_output_schema`: the strict form of the JSON schema that the model has to answer in.

The rewrite goes to every schema that hangs below another by one of the keywords. The source does
it in place, the assignments to a schema before those to the schemas below it.
-/

set_option autoImplicit false

namespace DarktableAgent.Server

open Foundation

/-- The keywords under which a schema or a list of schemas stands. -/
def schemaKeywords : List String := ["items", "anyOf", "allOf", "oneOf", "prefixItems"]

/-- The properties of an object schema. -/
def properties? (members : JsonObject) : Option JsonObject :=
  match members.lookup "properties" with
  | some (.obj properties) => some properties
  | _ => none

def propertyNames (properties : JsonObject) : Json := .arr (properties.map fun property => .str property.1)

/-- What is assigned to a schema itself. -/
def strict (members : JsonObject) : JsonObject :=
  match properties? members with
  | none => members
  | some properties =>
    let members := setMember "required" (propertyNames properties) members
    if (members.lookup "additionalProperties").isSome then members
    else setMember "additionalProperties" (.bool false) members

mutual

/-- `_rewrite`, which `build_output_schema` applies to the schema of the plan type. -/
def rewrite : Json → Json
  | .obj members => .obj (strict (rewriteMembers members))
  | .arr items => .arr (rewriteItems items)
  | node => node

def rewriteItems : List Json → List Json
  | [] => []
  | item :: rest => rewrite item :: rewriteItems rest

/-- The values of `properties` or `$defs`. -/
def rewriteValues : JsonObject → JsonObject
  | [] => []
  | (name, child) :: rest => (name, rewrite child) :: rewriteValues rest

def rewriteMembers : JsonObject → JsonObject
  | [] => []
  | (name, child) :: rest =>
    (name,
      -- a list is rewritten item by item, an object as a node, and nothing else is
      if name ∈ schemaKeywords then rewrite child
      else if name = "properties" ∨ name = "$defs" then
        match child with
        | .obj values => .obj (rewriteValues values)
        | other => other
      else child) :: rewriteMembers rest

end

/-! ## Places in a schema -/

/-- What may stand at a place: a schema or a list of them, a dictionary of schemas, or other data. -/
inductive Position where
  | schema
  | schemas
  | data
  deriving DecidableEq, Repr

/-- What stands under a member of a schema. -/
def keywordPosition (name : String) : Position :=
  if name ∈ schemaKeywords then .schema
  else if name = "properties" ∨ name = "$defs" then .schemas
  else .data

def Position.next : Position → Segment → Position
  | .schema, .member name => keywordPosition name
  | .schema, .item _ => .schema
  | .schemas, .member _ => .schema
  | _, _ => .data

/-- The end of a path from a schema. -/
def positionOf (path : List Segment) : Position := path.foldl Position.next .schema

/-- What the rewrite makes of a value by its position. -/
def rewriteAt : Position → Json → Json
  | .schema, node => rewrite node
  | .schemas, .obj values => .obj (rewriteValues values)
  | _, value => value

@[simp] theorem rewriteAt_schema (node : Json) : rewriteAt .schema node = rewrite node := rfl

@[simp] theorem rewriteAt_data (value : Json) : rewriteAt .data value = value := rfl

theorem map_rewriteAt_data (child : Option Json) : child.map (rewriteAt .data) = child := by
  cases child <;> rfl

theorem rewriteItems_eq_map (items : List Json) : rewriteItems items = items.map rewrite := by
  induction items with
  | nil => rfl
  | cons item rest ih => rw [rewriteItems, ih, List.map_cons]

theorem rewriteValues_eq_map (values : JsonObject) : rewriteValues values = mapMembers (fun _ => rewrite) values := by
  induction values with
  | nil => rfl
  | cons value rest ih =>
    rw [rewriteValues, ih]
    rfl

theorem rewriteMembers_cons (name : String) (child : Json) (rest : JsonObject) :
    rewriteMembers ((name, child) :: rest) =
      (name, rewriteAt (keywordPosition name) child) :: rewriteMembers rest := by
  unfold keywordPosition
  by_cases isKeyword : name ∈ schemaKeywords
  · cases child <;> simp [rewriteMembers, isKeyword]
  · by_cases holdsSchemas : name = "properties" ∨ name = "$defs"
    · cases child <;> simp [rewriteMembers, isKeyword, holdsSchemas, rewriteAt]
    · cases child <;> simp [rewriteMembers, isKeyword, holdsSchemas]

theorem rewriteMembers_eq_map (members : JsonObject) :
    rewriteMembers members = mapMembers (fun name => rewriteAt (keywordPosition name)) members := by
  induction members with
  | nil => rfl
  | cons member rest ih =>
    rw [rewriteMembers_cons, ih]
    rfl

/-! ## Assignments -/

section Strict

variable {members properties : JsonObject}

theorem strict_of_none (isOther : properties? members = none) : strict members = members := by
  simp [strict, isOther]

theorem lookup_strict (isObject : properties? members = some properties) (name : String) :
    (strict members).lookup name =
      if name = "required" then some (propertyNames properties)
      else if name = "additionalProperties" then some ((members.lookup name).getD (.bool false))
      else members.lookup name := by
  have additional : (setMember "required" (propertyNames properties) members).lookup "additionalProperties" =
      members.lookup "additionalProperties" := by
    rw [lookup_setMember, if_neg (by decide)]
  simp only [strict, isObject, additional]
  cases isAdditional : members.lookup "additionalProperties" with
  | some value =>
    rw [if_pos Option.isSome_some, lookup_setMember]
    by_cases same : name = "additionalProperties" <;> simp [same, isAdditional]
  | none =>
    rw [if_neg (by simp), lookup_setMember, lookup_setMember]
    by_cases same : name = "additionalProperties" <;> simp [same, isAdditional]

/-- Neither assignment is to the properties. -/
theorem lookup_strict_of_ne {name : String} (notRequired : name ≠ "required")
    (notAdditional : name ≠ "additionalProperties") :
    (strict members).lookup name = members.lookup name := by
  cases isObject : properties? members with
  | none => rw [strict_of_none isObject]
  | some properties => rw [lookup_strict isObject, if_neg notRequired, if_neg notAdditional]

theorem properties?_strict : properties? (strict members) = properties? members := by
  unfold properties?
  rw [lookup_strict_of_ne (by decide) (by decide)]

end Strict

/-- The rewrite of a schema assigns the member: `required`, and `additionalProperties` where it is missing. -/
def Assigns : Json → Segment → Prop
  | .obj members, .member name => (properties? members).isSome ∧
      (name = "required" ∨ name = "additionalProperties" ∧ members.lookup "additionalProperties" = none)
  | _, _ => False

/-- No member on the path is assigned. -/
def Untouched : Position → Json → List Segment → Prop
  | _, _, [] => True
  | position, value, segment :: rest => ¬(position = .schema ∧ Assigns value segment) ∧
      ∀ child ∈ value.child? segment, Untouched (position.next segment) child rest

theorem lookup_rewriteMembers (members : JsonObject) (name : String) :
    (rewriteMembers members).lookup name = (members.lookup name).map (rewriteAt (keywordPosition name)) := by
  rw [rewriteMembers_eq_map, lookup_mapMembers]

theorem properties?_rewriteMembers (members : JsonObject) :
    properties? (rewriteMembers members) = (properties? members).map rewriteValues := by
  have position : keywordPosition "properties" = .schemas := by decide
  unfold properties?
  rw [lookup_rewriteMembers, position]
  cases members.lookup "properties" with
  | none => rfl
  | some value => cases value <;> rfl

/-- A member that is not assigned is rewritten by its position. -/
theorem lookup_rewritten {members : JsonObject} {name : String} (kept : ¬Assigns (.obj members) (.member name)) :
    (strict (rewriteMembers members)).lookup name = (members.lookup name).map (rewriteAt (keywordPosition name)) := by
  rw [← lookup_rewriteMembers]
  cases isObject : properties? (rewriteMembers members) with
  | none => rw [strict_of_none isObject]
  | some properties =>
    have present : (properties? members).isSome := by
      have mapped := congrArg Option.isSome isObject
      rwa [properties?_rewriteMembers, Option.isSome_map] at mapped
    rw [lookup_strict isObject]
    by_cases isRequired : name = "required"
    · exact absurd ⟨present, .inl isRequired⟩ kept
    · rw [if_neg isRequired]
      by_cases isAdditional : name = "additionalProperties"
      · subst isAdditional
        rw [if_pos rfl, lookup_rewriteMembers]
        cases isThere : members.lookup "additionalProperties" with
        | none => exact absurd ⟨present, .inr ⟨rfl, isThere⟩⟩ kept
        | some value => rfl
      · rw [if_neg isAdditional]

/-- One step of a path: what is there is the rewritten value of what was there. -/
theorem child?_rewriteAt {position : Position} {value : Json} {segment : Segment}
    (kept : ¬(position = .schema ∧ Assigns value segment)) :
    (rewriteAt position value).child? segment = (value.child? segment).map (rewriteAt (position.next segment)) := by
  cases position with
  | schema =>
    have notAssigned : ¬Assigns value segment := fun assigns => kept ⟨rfl, assigns⟩
    cases segment with
    | member name =>
      cases value with
      | obj members => exact lookup_rewritten notAssigned
      | _ => rfl
    | item index =>
      cases value with
      | arr items =>
        rw [rewriteAt_schema, rewrite, rewriteItems_eq_map]
        exact List.getElem?_map
      | _ => rfl
  | schemas =>
    cases value with
    | obj values =>
      cases segment with
      | member name =>
        rw [rewriteAt, rewriteValues_eq_map]
        exact lookup_mapMembers (fun _ => rewrite) values name
      | item index => rfl
    | arr items =>
      cases segment with
      | member name => rfl
      | item index => exact (map_rewriteAt_data _).symm
    | _ => cases segment <;> rfl
  | data =>
    cases segment <;> exact (map_rewriteAt_data _).symm

/-- By induction on the path. -/
theorem at?_rewriteAt {position : Position} {value : Json} {path : List Segment}
    (untouched : Untouched position value path) :
    (rewriteAt position value).at? path = (value.at? path).map (rewriteAt (path.foldl Position.next position)) := by
  induction path generalizing position value with
  | nil => rfl
  | cons segment rest ih =>
    rw [Json.at?, Json.at?, child?_rewriteAt untouched.1, List.foldl_cons]
    cases isChild : value.child? segment with
    | none => rfl
    | some child => exact ih (untouched.2 child isChild)

theorem outline_rewriteAt (position : Position) (value : Json) :
    (rewriteAt position value).outline = value.outline := by
  cases position with
  | schema =>
    cases value with
    | arr items => simp [rewrite, rewriteItems_eq_map, Json.outline, Function.comp_def]
    | obj members => simp [rewrite, Json.outline]
    | _ => rfl
  | schemas => cases value <;> rfl
  | data => rfl

/-- From data no path leads back to a schema. -/
theorem foldl_next_data (path : List Segment) : path.foldl Position.next .data = .data := by
  induction path with
  | nil => rfl
  | cons segment rest ih => cases segment <;> exact ih

theorem Assigns.next {value : Json} {segment : Segment} (assigns : Assigns value segment) :
    Position.schema.next segment = .data := by
  cases segment with
  | item index => cases value <;> exact assigns.elim
  | member name =>
    cases value with
    | obj members =>
      rcases assigns.2 with rfl | ⟨rfl, _⟩
      · decide
      · decide
    | _ => exact assigns.elim

theorem untouched_of_schema {position : Position} {value : Json} {path : List Segment}
    (leads : path.foldl Position.next position = .schema) : Untouched position value path := by
  induction path generalizing position value with
  | nil => trivial
  | cons segment rest ih =>
    refine ⟨?_, fun child _ => ih leads⟩
    rintro ⟨rfl, assigns⟩
    rw [List.foldl_cons, assigns.next, foldl_next_data] at leads
    cases leads

/-! ## Rewriting again -/

section Idempotent

variable {members : JsonObject}

theorem required_mem_keys {properties : JsonObject} (isObject : properties? members = some properties) :
    "required" ∈ (strict members).map (·.1) := by
  rw [← lookup_isSome_iff_mem_keys, lookup_strict isObject, if_pos rfl]
  rfl

/-- Every member of that name is the assigned one. -/
theorem required_of_mem {properties : JsonObject} (isObject : properties? members = some properties)
    {member : String × Json} (isMember : member ∈ strict members) (isRequired : member.1 = "required") :
    member.2 = propertyNames properties := by
  have afterFirst : member ∈ setMember "required" (propertyNames properties) members := by
    simp only [strict, isObject] at isMember
    split at isMember
    · exact isMember
    · rcases mem_setMember isMember with rfl | ⟨_, isOld⟩
      · exact absurd isRequired (by decide)
      · exact isOld
  rcases mem_setMember afterFirst with rfl | ⟨notRequired, _⟩
  · rfl
  · exact absurd isRequired notRequired

theorem strict_strict : strict (strict members) = strict members := by
  cases isObject : properties? members with
  | none => rw [strict_of_none (properties?_strict.trans isObject)]
  | some properties =>
    have again : properties? (strict members) = some properties := properties?_strict.trans isObject
    have same : setMember "required" (propertyNames properties) (strict members) = strict members :=
      setMember_eq_self (required_mem_keys isObject) fun _ isMember => required_of_mem isObject isMember
    have additional : ((strict members).lookup "additionalProperties").isSome := by
      rw [lookup_strict isObject, if_neg (by decide), if_pos rfl]
      rfl
    rw [strict, again]
    dsimp only
    rw [same, if_pos additional]

theorem propertyNames_rewriteValues (properties : JsonObject) :
    propertyNames (rewriteValues properties) = propertyNames properties := by
  have names := mapMembers_keys (fun _ => rewrite) properties
  rw [← rewriteValues_eq_map] at names
  have asText (values : JsonObject) : propertyNames values = .arr ((values.map (·.1)).map .str) := by
    rw [propertyNames, List.map_map]
    rfl
  rw [asText, asText, names]

/-- The rewrite does not go into what is assigned, so that the order of the two does not matter. -/
theorem rewriteMembers_strict (members : JsonObject) :
    rewriteMembers (strict members) = strict (rewriteMembers members) := by
  cases isObject : properties? members with
  | none =>
    have stillNone : properties? (rewriteMembers members) = none := by
      rw [properties?_rewriteMembers, isObject]
      rfl
    rw [strict_of_none isObject, strict_of_none stillNone]
  | some properties =>
    have rewritten : properties? (rewriteMembers members) = some (rewriteValues properties) := by
      rw [properties?_rewriteMembers, isObject]
      rfl
    have required (values : JsonObject) : rewriteMembers (setMember "required" (propertyNames properties) values) =
        setMember "required" (propertyNames properties) (rewriteMembers values) := by
      rw [rewriteMembers_eq_map, rewriteMembers_eq_map]
      exact mapMembers_setMember rfl values
    have additional (values : JsonObject) : rewriteMembers (setMember "additionalProperties" (.bool false) values) =
        setMember "additionalProperties" (.bool false) (rewriteMembers values) := by
      rw [rewriteMembers_eq_map, rewriteMembers_eq_map]
      exact mapMembers_setMember rfl values
    have present : ((setMember "required" (propertyNames properties) (rewriteMembers members)).lookup
        "additionalProperties").isSome =
          ((setMember "required" (propertyNames properties) members).lookup "additionalProperties").isSome := by
      rw [← required, lookup_rewriteMembers, Option.isSome_map]
    simp only [strict, isObject, rewritten, propertyNames_rewriteValues, present]
    split
    · exact required members
    · rw [additional, required]

/-- What is rewritten in its position stays as it is, by induction on the value. -/
theorem rewriteAt_rewriteAt (value : Json) :
    ∀ position, rewriteAt position (rewriteAt position value) = rewriteAt position value := by
  induction value using Json.induction with
  | scalar value notArray notObject =>
    intro position
    cases value with
    | arr items => exact absurd rfl (notArray items)
    | obj members => exact absurd rfl (notObject members)
    | _ => cases position <;> rfl
  | arr items ih =>
    intro position
    cases position with
    | schema =>
      simp only [rewriteAt_schema, rewrite, rewriteItems_eq_map, List.map_map]
      congr 1
      apply List.map_congr_left
      intro item member
      exact ih item member .schema
    | schemas => rfl
    | data => rfl
  | obj members ih =>
    intro position
    cases position with
    | schema =>
      have again : rewriteMembers (rewriteMembers members) = rewriteMembers members := by
        simp only [rewriteMembers_eq_map, mapMembers, List.map_map]
        apply List.map_congr_left
        intro member isMember
        exact Prod.ext rfl (ih member isMember (keywordPosition member.1))
      rw [rewriteAt_schema, rewriteAt_schema, rewrite, rewrite, rewriteMembers_strict, strict_strict, again]
    | schemas =>
      simp only [rewriteAt, rewriteValues_eq_map, mapMembers, List.map_map]
      congr 1
      apply List.map_congr_left
      intro member isMember
      exact Prod.ext rfl (ih member isMember .schema)
    | data => rfl

end Idempotent

/-- Every object schema is strict after the rewrite, wherever it hangs. -/
theorem strict_at {schema : Json} {path : List Segment} {members properties : JsonObject}
    (leads : positionOf path = .schema) (found : (rewrite schema).at? path = some (.obj members))
    (isObject : properties? members = some properties) :
    members.lookup "required" = some (propertyNames properties) ∧
      (members.lookup "additionalProperties").isSome := by
  have rewritten : (rewrite schema).at? path = (schema.at? path).map rewrite := by
    have along := @at?_rewriteAt .schema schema path (untouched_of_schema leads)
    rw [← positionOf, leads] at along
    exact along
  rw [rewritten] at found
  obtain ⟨before, _, isAfter⟩ := Option.map_eq_some_iff.mp found
  cases before with
  | obj old =>
    obtain rfl : strict (rewriteMembers old) = members := by
      rw [rewrite] at isAfter
      exact Json.obj.inj isAfter
    rw [properties?_strict] at isObject
    constructor
    · rw [lookup_strict isObject, if_pos rfl]
    · rw [lookup_strict isObject, if_neg (by decide), if_pos rfl]
      rfl
  | arr items =>
    rw [rewrite] at isAfter
    cases isAfter
  | _ => cases isAfter

/-- Besides what is assigned nothing changes: neither the outline of a schema nor any other data at all. -/
theorem kept_at {schema : Json} {path : List Segment} (untouched : Untouched .schema schema path) :
    ((rewrite schema).at? path).map Json.outline = (schema.at? path).map Json.outline ∧
      (positionOf path = .data → (rewrite schema).at? path = schema.at? path) := by
  have along := at?_rewriteAt untouched
  rw [rewriteAt_schema, ← positionOf] at along
  rw [along]
  constructor
  · rw [Option.map_map]
    congr 1
    funext value
    exact outline_rewriteAt (positionOf path) value
  · intro isData
    rw [isData, map_rewriteAt_data]

theorem rewrite_strict_idempotent (schema : Json) :
    (∀ path members properties, positionOf path = .schema → (rewrite schema).at? path = some (.obj members) →
      properties? members = some properties → members.lookup "required" = some (propertyNames properties) ∧
        (members.lookup "additionalProperties").isSome) ∧
    (∀ path, Untouched .schema schema path →
      ((rewrite schema).at? path).map Json.outline = (schema.at? path).map Json.outline ∧
        (positionOf path = .data → (rewrite schema).at? path = schema.at? path)) ∧
    rewrite (rewrite schema) = rewrite schema :=
  ⟨fun _ _ _ leads found isObject => strict_at leads found isObject, fun _ untouched => kept_at untouched,
    rewriteAt_rewriteAt schema .schema⟩

/-- An object schema hidden in the alternatives of a definition. -/
def hiddenSchema : Json :=
  .obj [("$defs", .obj [("Value", .obj [("anyOf", .arr [.null, .obj [("properties", .obj [("x", .null)])]])])])]

def hiddenPath : List Segment := [.member "$defs", .member "Value", .member "anyOf", .item 1]

theorem rewrite_strict_idempotent_hidden :
    (∃ members, (rewrite hiddenSchema).at? hiddenPath = some (.obj members) ∧
      members.lookup "required" = some (.arr [.str "x"])) ∧
    ((rewrite hiddenSchema).at? [.member "$defs"]).map Json.outline = some (.obj []) ∧
    rewrite (rewrite hiddenSchema) = rewrite hiddenSchema := by
  obtain ⟨isStrict, kept, again⟩ := rewrite_strict_idempotent hiddenSchema
  refine ⟨⟨_, rfl, ?_⟩, ?_, again⟩
  · exact (isStrict hiddenPath _ [("x", .null)] (by decide) rfl rfl).1
  · exact (kept [.member "$defs"] ⟨fun assigned => absurd assigned.2.1 (by decide), fun _ _ => trivial⟩).1

end DarktableAgent.Server
