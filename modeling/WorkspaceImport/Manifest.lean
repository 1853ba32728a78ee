import WorkspaceImport.Project
/-!
The list of imported projects as it is handed on to other programs.
-/
namespace WorkspaceImport

def Project.entry (p : Project) : Value :=
  .ofFields [("name", .text p.name), ("package", .text p.package),
    ("package_path", .text p.packagePath), ("source_paths", .ofTexts p.sourcePaths),
    ("generated_sources", .ofTexts p.generatedSources), ("targets", .ofTexts p.targets),
    ("references", .ofTexts p.references), ("is_workspace_root", .bool p.isWorkspaceRoot)]

def manifest (workspace : Path) (projects : List Project) : Value :=
  .ofFields [("workspace", .text workspace.text), ("projects", .list (projects.map Project.entry))]

end WorkspaceImport
