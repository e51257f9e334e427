import SignOn.Settings

/-!
# Database URLs

A database is named by a URL whose scheme is a dialect, or a dialect and a driver.  Only drivers
that do not block can be used.
-/

namespace SignOn.Database

inductive Fault where
  | unreadable
  | unknownDialect
  | blockingDriver
  deriving DecidableEq, Repr

def isSchemePoint (c : CodePoint) : Bool :=
  c.isLetter || c.isDigit || c = '_' || c = '+'

def scheme? (url : Text) : Option Text :=
  let scheme := url.takeWhile isSchemePoint
  let mark : Text := "://"
  if scheme.isEmpty || !mark.isPrefixOf (url.drop scheme.length) then none else some scheme

def usable : List Text := ["sqlite+aiosqlite", "postgresql+asyncpg"]

def blocking : List Text := ["sqlite", "sqlite+pysqlite"]

def fault? (url : Text) : Option Fault :=
  match scheme? (Settings.withDriver url) with
  | none => some .unreadable
  | some scheme =>
      if usable.contains scheme then none
      else if blocking.contains scheme then some .blockingDriver
      else some .unknownDialect

end SignOn.Database
