import BuildingModel.Json.Printer
import BuildingModel.Schema.EntityType

/-!
# Built-in templates

Two templates for the Jsonnet language are built in. One summarizes a whole document, the other
lists the elements of one type. The type is put into the template as a string literal, so that no
name of a type can be anything else to the evaluator.
-/

namespace BuildingModel.Render

/-- Lines of text, each ended by a line feed. -/
def ofLines (lines : List String) : String :=
  String.join (lines.map (· ++ "\n"))

/-- How every built-in template starts. -/
def prelude : String := ofLines
  ["local ifcData = std.parseJson(std.extVar('ifcData'));",
   "local field(obj, key, default) = if std.objectHas(obj, key) then obj[key] else default;",
   "local entities = field(ifcData, 'entities', []);"]

/-- The summary of a document. -/
def summaryBody : String := ofLines
  ["",
   "local types = std.set([e.type for e in entities]);",
   "",
   "\x7b",
   "  metadata: \x7b",
   "    elements_count: std.length(entities),",
   "    project_info: field(ifcData, 'project', null),",
   "    schema: field(field(ifcData, 'metadata', \x7b\x7d), 'schemaVersion', null),",
   "  \x7d,",
   "  elements: [",
   "    \x7b",
   "      id: e.id,",
   "      type: e.type,",
   "      name: field(e, 'name', null),",
   "      description: field(e, 'description', null),",
   "      properties: field(e, 'properties', \x7b\x7d),",
   "      geometry: field(e, 'geometry', null),",
   "    \x7d",
   "    for e in entities",
   "  ],",
   "  summary: \x7b",
   "    by_type: \x7b",
   "      [t]: std.length([e for e in entities if e.type == t])",
   "      for t in types",
   "    \x7d,",
   "  \x7d,",
   "\x7d"]

/-- The list of the elements of a type. -/
def elementsBody : String := ofLines
  ["",
   "local matches = [e for e in entities if e.type == elementType];",
   "local total(meshes, key) = std.foldl(function(acc, m) acc + std.length(m[key]), meshes, 0);",
   "",
   "\x7b",
   "  element_type: elementType,",
   "  count: std.length(matches),",
   "  elements: [",
   "    \x7b",
   "      id: e.id,",
   "      name: field(e, 'name', null),",
   "      description: field(e, 'description', null),",
   "      properties: field(e, 'properties', \x7b\x7d),",
   "      geometry: if std.objectHas(e, 'geometry') then \x7b",
   "        meshes_count: std.length(e.geometry.meshes),",
   "        vertices_count: total(e.geometry.meshes, 'vertices'),",
   "        faces_count: total(e.geometry.meshes, 'faces'),",
   "      \x7d else null,",
   "    \x7d",
   "    for e in matches",
   "  ],",
   "  metadata: \x7b",
   "    query_type: 'element_type_filter',",
   "    filter: elementType,",
   "  \x7d,",
   "\x7d"]

/-- The template for the summary of a document. -/
def summaryTemplate : String :=
  prelude ++ summaryBody

/-- The name of a type in documents, for a type as a reader names it. -/
def typeName (name : String) : String :=
  (EntityType.ofLabel name).label

/-- The template for the elements of a type as a reader names it. -/
def elementsTemplate (name : String) : String :=
  prelude ++ "local elementType = " ++ (Json.text (typeName name)).compact ++ ";\n" ++ elementsBody

end BuildingModel.Render
