import OverlayShell.Tree.Entry

/-!
# The sample tree

The documents that a session shows when its configuration names none.
-/

namespace OverlayShell

namespace Sample

def readme : String :=
  "# devterm\n" ++
  "\n" ++
  "An in-memory developer terminal.\n" ++
  "\n" ++
  "## Try it\n" ++
  "- `ls -la` to look around\n" ++
  "- `cat docs/about.md`\n" ++
  "- `search TODO`\n"

def packageJson : String :=
  "\x7b\n" ++
  "  \"name\": \"portfolio-v3\",\n" ++
  "  \"version\": \"3.0.2\",\n" ++
  "  \"private\": true,\n" ++
  "  \"scripts\": \x7b\n" ++
  "    \"dev\": \"next dev --turbo\",\n" ++
  "    \"build\": \"next build\",\n" ++
  "    \"start\": \"next start\",\n" ++
  "    \"test\": \"vitest --run\"\n" ++
  "  \x7d\n" ++
  "\x7d\n"

def appTs : String :=
  "import \x7b render \x7d from './lib/render';\n" ++
  "\n" ++
  "// TODO: lazy-load the terminal panel\n" ++
  "export function main(): void \x7b\n" ++
  "  render(document.getElementById('root'));\n" ++
  "\x7d\n"

def renderTs : String :=
  "export function render(node: HTMLElement | null): void \x7b\n" ++
  "  if (!node) return;\n" ++
  "  node.textContent = 'Hello from React';\n" ++
  "\x7d\n"

def aboutMd : String :=
  "# About\n" ++
  "\n" ++
  "Full-stack developer working with Next.js, Node and Tailwind.\n"

def gitignore : String :=
  "node_modules\n" ++
  ".next\n"

end Sample

/-- The tree of a session without a configured one. -/
def sampleTree : List Entry := [
  .file ⟨"README.md", "markdown", Sample.readme, false⟩,
  .file ⟨"package.json", "json", Sample.packageJson, false⟩,
  .file ⟨".gitignore", "markdown", Sample.gitignore, false⟩,
  .folder "src" [
    .file ⟨"app.ts", "typescript", Sample.appTs, false⟩,
    .folder "lib" [
      .file ⟨"render.ts", "typescript", Sample.renderTs, false⟩] false] true,
  .folder "docs" [
    .file ⟨"about.md", "markdown", Sample.aboutMd, false⟩] false]

end OverlayShell
