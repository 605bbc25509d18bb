import JvmScope.ClassFile.Error
import JvmScope.Files.FileTree
import JvmScope.Types.Error

/-!
# Classpath errors

Why a jar, a class directory or a JDK could not be opened, or a class in one could not be read.
-/

namespace JvmScope

/-- Why there is no JDK where one was looked for. -/
inductive JdkError
  | notFound
  /-- The directory holds neither modules nor a runtime archive. -/
  | notAJdk (root : String)
  /-- The module directory holds no modules. -/
  | noModulesFound (directory : String)
  deriving DecidableEq, Repr

namespace JdkError

/-- The text shown for an error. -/
def message : JdkError → String
  | notFound =>
    "could not discover a JDK installation (tried the configured home, JAVA_HOME and " ++
      "`java` on PATH)"
  | notAJdk root => "`" ++ root ++ "` contains neither `jmods/` nor `lib/rt.jar`"
  | noModulesFound directory => "no `.jmod` files found in `" ++ directory ++ "`"

end JdkError

/-- A failure of a part of the classpath. -/
inductive ClasspathError
  | io (path : String) (cause : IoError)
  /-- The file at `path` is no archive. -/
  | notAnArchive (path : String)
  | notADirectory (path : String)
  /-- The class with the given dotted name has a malformed class file. -/
  | classFile (name : String) (cause : FormatError)
  | type (cause : TypeError)
  | jdk (cause : JdkError)
  deriving DecidableEq, Repr

namespace ClasspathError

/-- The text shown for an error. -/
def message : ClasspathError → String
  | io path cause => "io error on `" ++ path ++ "`: " ++ cause.message
  | notAnArchive path => "`" ++ path ++ "` is not a readable archive"
  | notADirectory path => "`" ++ path ++ "` is not a directory"
  | classFile name cause => "malformed class file `" ++ name ++ "`: " ++ cause.message
  | type cause => cause.message
  | jdk cause => cause.message

/-- The error as a type source reports it when asked for `name`. -/
def toTypeError (name : String) : ClasspathError → TypeError
  | type cause => cause
  | other => .provider name other.message

end ClasspathError

end JvmScope
