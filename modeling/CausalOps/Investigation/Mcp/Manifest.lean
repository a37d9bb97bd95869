import CausalOps.Library.Canonical
import CausalOps.Investigation.ToolCalls

set_option autoImplicit false

/-! The pinned manifest of the observability tools, and what a discovery has to show. -/

namespace CausalOps.Investigation.Mcp

section Manifest

def mcpProtocolVersion : String := "2025-11-25"

def mcpServerName : String := "causalops-observability"

def mcpServerVersion : String := "1"

/-- `PINNED_MANIFEST_SHA256`. -/
def pinnedManifestSha256 : String :=
  "8e10d43c319ce1b6bdac81d5dc290ccbfc472c10e59c9345d12d04d49ee3b82d"

structure McpToolDefinition where
  name : ToolName
  inputSchema : Json.Dict

/-- One tool of a `tools/list` result. -/
structure McpToolDiscovery where
  name : String
  inputSchema : Json.Dict

structure McpToolManifest where
  protocolVersion : String
  serverName : String
  serverVersion : String
  tools : List McpToolDefinition

inductive McpManifestError where
  | schemasChanged
  | repeats (name : String)
  | notTheApprovedSet
  | differs (name : String)

/-- What pydantic, `hashlib` and `json` do for the manifest. -/
structure Schemas where
  schema : ToolName → Json.Dict
  sha256 : String → String
  floats : Canonical.FloatText

/-- The names in `_TOOL_ARGUMENT_MODELS`: `search_runbooks` is not one of them. -/
def observabilityTools : List ToolName :=
  [.queryMetric, .queryLogs, .listRecentChanges, .getTopology]

variable (schemas : Schemas)

def canonicalJson (value : Json) : List Char := Canonical.text schemas.floats value.sortKeys

def McpToolManifest.canonicalJson (manifest : McpToolManifest) : List Char :=
  Mcp.canonicalJson schemas (.obj
    [("protocol_version", .str manifest.protocolVersion),
      ("server_name", .str manifest.serverName),
      ("server_version", .str manifest.serverVersion),
      ("tools", .arr (manifest.tools.map fun tool =>
        .obj [("name", .str tool.name.value), ("input_schema", .obj tool.inputSchema)]))])

def buildManifest : McpToolManifest where
  protocolVersion := mcpProtocolVersion
  serverName := mcpServerName
  serverVersion := mcpServerVersion
  tools := observabilityTools.map fun name => ⟨name, schemas.schema name⟩

def pinnedObservabilityManifest : Except McpManifestError McpToolManifest :=
  let manifest := buildManifest schemas
  if schemas.sha256 (String.ofList (manifest.canonicalJson schemas)) ≠ pinnedManifestSha256 then
    .error .schemasChanged
  else .ok manifest

/-- The first loop of `verify_discovered_tools`: the schemas by name. -/
def actualSchemas : List McpToolDiscovery → List (String × Json.Dict) →
    Except McpManifestError (List (String × Json.Dict))
  | [], actual => .ok actual
  | tool :: rest, actual =>
      if tool.name ∈ actual.map Prod.fst then .error (.repeats tool.name)
      else actualSchemas rest (actual ++ [(tool.name, tool.inputSchema)])

/-- The second loop: every approved schema is the discovered one. -/
def checkSchemas (actual : List (String × Json.Dict)) :
    List McpToolDefinition → Except McpManifestError Unit
  | [] => .ok ()
  | tool :: rest =>
      let found := (actual.find? fun entry => entry.1 = tool.name.value).map Prod.snd
      if canonicalJson schemas (.obj (found.getD [])) ≠
          canonicalJson schemas (.obj tool.inputSchema) then .error (.differs tool.name.value)
      else checkSchemas actual rest

/-- `set(actual) == set(expected)`. -/
abbrev SameNames (actual expected : List String) : Prop :=
  (∀ name ∈ actual, name ∈ expected) ∧ ∀ name ∈ expected, name ∈ actual

/-- A discovery that is verified yields the pinned manifest, never what was discovered. -/
def verifyDiscoveredTools (discovered : List McpToolDiscovery) :
    Except McpManifestError McpToolManifest := do
  let manifest ← pinnedObservabilityManifest schemas
  let actual ← actualSchemas discovered []
  if SameNames (actual.map Prod.fst) (manifest.tools.map fun tool => tool.name.value) then
    checkSchemas schemas actual manifest.tools
    return manifest
  else .error .notTheApprovedSet

/-- `McpToolDiscovery.model_validate`: a schema goes by its alias or else by its name. -/
def McpToolDiscovery.modelValidate : Json → Option McpToolDiscovery
  | .obj entries =>
      match Json.get entries "name",
          (Json.get entries "inputSchema").or (Json.get entries "input_schema") with
      | some (.str name), some (.obj schema) => some ⟨name, schema⟩
      | _, _ => none
  | _ => none

end Manifest

section Exactness

/-- The same JSON value up to the order of keys, with the types of its numbers. -/
def SameJson (a b : Json) : Prop := a.sortKeys = b.sortKeys

/-- A discovery shows the tools of a manifest: none twice, and their names and schemas are
those of the manifest, in any order. -/
structure Discovers (manifest : McpToolManifest) (discovered : List McpToolDiscovery) : Prop where
  once : (discovered.map fun tool => tool.name).Nodup
  granted : ∀ tool ∈ discovered, ∃ definition ∈ manifest.tools,
    definition.name.value = tool.name ∧ SameJson (.obj tool.inputSchema) (.obj definition.inputSchema)
  shown : ∀ definition ∈ manifest.tools, ∃ tool ∈ discovered,
    tool.name = definition.name.value ∧
      SameJson (.obj tool.inputSchema) (.obj definition.inputSchema)

variable {schemas : Schemas} {discovered others : List McpToolDiscovery}
  {manifest : McpToolManifest}

theorem bind_ok {ε α β : Type} {x : Except ε α} {f : α → Except ε β} {r : β}
    (h : x >>= f = .ok r) : ∃ a, x = .ok a ∧ f a = .ok r := by
  cases x with
  | error e => cases h
  | ok a => exact ⟨a, rfl, h⟩

theorem canonicalJson_eq_iff (schemas : Schemas) {a b : Json} :
    canonicalJson schemas a = canonicalJson schemas b ↔ SameJson a b :=
  Canonical.text_injective.eq_iff

theorem tools_distinct (h : pinnedObservabilityManifest schemas = .ok manifest) :
    (manifest.tools.map fun tool => tool.name.value).Nodup := by
  simp only [pinnedObservabilityManifest] at h
  split at h
  · cases h
  · obtain rfl := Except.ok.inj h
    have hnames : (observabilityTools.map fun name => name.value).Nodup := by decide
    simpa [buildManifest, List.map_map, Function.comp_def] using hnames

theorem actualSchemas_ok {actual schemasByName : List (String × Json.Dict)} :
    actualSchemas discovered actual = .ok schemasByName ↔
      (discovered.map fun tool => tool.name).Nodup ∧
        (∀ tool ∈ discovered, tool.name ∉ actual.map Prod.fst) ∧
        schemasByName = actual ++ discovered.map fun tool => (tool.name, tool.inputSchema) := by
  induction discovered generalizing actual with
  | nil => simp [actualSchemas, eq_comm]
  | cons tool rest ih =>
      rw [actualSchemas]
      split
      · rename_i hrepeats
        constructor
        · intro h
          cases h
        · rintro ⟨_, hnew, _⟩
          exact absurd hrepeats (hnew tool List.mem_cons_self)
      · rename_i hnew
        rw [ih, List.map_cons, List.nodup_cons, List.map_append, List.forall_mem_cons]
        simp only [List.map_cons, List.map_nil, List.mem_append, List.mem_cons, List.not_mem_nil,
          or_false, not_or, List.append_assoc, List.singleton_append]
        constructor
        · rintro ⟨hnodup, hrest, rfl⟩
          refine ⟨⟨?_, hnodup⟩, ⟨hnew, fun other hother => (hrest other hother).1⟩, rfl⟩
          intro hmem
          obtain ⟨other, hother, hname⟩ := List.mem_map.1 hmem
          exact (hrest other hother).2 hname
        · rintro ⟨⟨hfirst, hnodup⟩, ⟨_, hrest⟩, rfl⟩
          refine ⟨hnodup, fun other hother => ⟨hrest other hother, ?_⟩, rfl⟩
          intro hname
          exact hfirst (List.mem_map.2 ⟨other, hother, hname⟩)

theorem checkSchemas_ok {actual : List (String × Json.Dict)} {tools : List McpToolDefinition} :
    checkSchemas schemas actual tools = .ok () ↔ ∀ definition ∈ tools,
      SameJson
        (.obj (((actual.find? fun entry => entry.1 = definition.name.value).map Prod.snd).getD []))
        (.obj definition.inputSchema) := by
  induction tools with
  | nil => simp [checkSchemas]
  | cons definition rest ih =>
      rw [checkSchemas, List.forall_mem_cons, ← ih, ← canonicalJson_eq_iff schemas]
      split
      · rename_i hdiffers
        constructor
        · intro h
          cases h
        · rintro ⟨hsame, _⟩
          exact absurd hsame hdiffers
      · rename_i hsame
        exact ⟨fun h => ⟨not_not.1 hsame, h⟩, fun h => h.2⟩

theorem find_discovered (honce : (discovered.map fun tool => tool.name).Nodup)
    {tool : McpToolDiscovery} (htool : tool ∈ discovered) :
    (discovered.map fun tool => (tool.name, tool.inputSchema)).find?
      (fun entry => entry.1 = tool.name) = some (tool.name, tool.inputSchema) := by
  induction discovered with
  | nil => cases htool
  | cons first rest ih =>
      rw [List.map_cons, List.nodup_cons] at honce
      rw [List.map_cons, List.find?_cons]
      rcases List.mem_cons.1 htool with rfl | hrest
      · simp
      · have hne : first.name ≠ tool.name := by
          intro heq
          exact honce.1 (List.mem_map.2 ⟨tool, hrest, heq.symm⟩)
        simp only [hne, decide_false]
        exact ih honce.2 hrest

/-- A discovery is verified exactly when it shows the tools of the pinned manifest. -/
theorem verifyDiscoveredTools_ok :
    verifyDiscoveredTools schemas discovered = .ok manifest ↔
      pinnedObservabilityManifest schemas = .ok manifest ∧ Discovers manifest discovered := by
  have hnames : (discovered.map fun tool => (tool.name, tool.inputSchema)).map Prod.fst =
      discovered.map fun tool => tool.name := by
    rw [List.map_map]
    rfl
  constructor
  · intro h
    obtain ⟨pinned, hpinned, h⟩ := bind_ok h
    obtain ⟨actual, hactual, h⟩ := bind_ok h
    obtain ⟨honce, -, rfl⟩ := actualSchemas_ok.1 hactual
    rw [List.nil_append, hnames] at h
    by_cases hsets : SameNames (discovered.map fun tool => tool.name)
      (pinned.tools.map fun tool => tool.name.value)
    swap
    · rw [if_neg hsets] at h
      cases h
    rw [if_pos hsets] at h
    obtain ⟨⟨⟩, hchecked, h⟩ := bind_ok h
    obtain rfl := Except.ok.inj h
    obtain ⟨happroved, hmissing⟩ := hsets
    have hsame := checkSchemas_ok.1 hchecked
    have hschema : ∀ definition ∈ pinned.tools, ∀ tool ∈ discovered,
        tool.name = definition.name.value →
          SameJson (.obj tool.inputSchema) (.obj definition.inputSchema) := by
      intro definition hdefinition tool htool hname
      have hfound := hsame definition hdefinition
      rwa [← hname, find_discovered honce htool] at hfound
    refine ⟨hpinned, honce, ?_, ?_⟩
    · intro tool htool
      obtain ⟨definition, hdefinition, hname⟩ :=
        List.mem_map.1 (happroved tool.name (List.mem_map_of_mem htool))
      exact ⟨definition, hdefinition, hname, hschema definition hdefinition tool htool hname.symm⟩
    · intro definition hdefinition
      obtain ⟨tool, htool, hname⟩ :=
        List.mem_map.1 (hmissing definition.name.value (List.mem_map.2 ⟨definition, hdefinition, rfl⟩))
      exact ⟨tool, htool, hname, hschema definition hdefinition tool htool hname⟩
  · rintro ⟨hpinned, hdiscovers⟩
    have hactual : actualSchemas discovered [] =
        .ok (discovered.map fun tool => (tool.name, tool.inputSchema)) :=
      actualSchemas_ok.2 ⟨hdiscovers.once, fun tool _ => List.not_mem_nil, rfl⟩
    have hsets : SameNames (discovered.map fun tool => tool.name)
        (manifest.tools.map fun tool => tool.name.value) := by
      constructor
      · intro name hname
        obtain ⟨tool, htool, rfl⟩ := List.mem_map.1 hname
        obtain ⟨definition, hdefinition, hsame, _⟩ := hdiscovers.granted tool htool
        exact List.mem_map.2 ⟨definition, hdefinition, hsame⟩
      · intro name hname
        obtain ⟨definition, hdefinition, rfl⟩ := List.mem_map.1 hname
        obtain ⟨tool, htool, hsame, _⟩ := hdiscovers.shown definition hdefinition
        exact List.mem_map.2 ⟨tool, htool, hsame⟩
    have hchecked : checkSchemas schemas
        (discovered.map fun tool => (tool.name, tool.inputSchema)) manifest.tools = .ok () := by
      refine checkSchemas_ok.2 fun definition hdefinition => ?_
      obtain ⟨tool, htool, hname, hsame⟩ := hdiscovers.shown definition hdefinition
      rw [← hname, find_discovered hdiscovers.once htool]
      exact hsame
    simp only [verifyDiscoveredTools, hpinned, hactual, hnames, hchecked, bind, Except.bind, pure,
      Except.pure]
    exact if_pos hsets

end Exactness

end CausalOps.Investigation.Mcp
