import BatchLaunch.Host.Files

/-!
The users and groups of a system, and the files in which it keeps them.
-/
namespace BatchLaunch.Host

structure User where
  name : String
  number : Nat
  group : Nat
  remark : String
  home : String
  shell : String
  deriving DecidableEq, Repr

def noLogin : String := "/usr/sbin/nologin"

/-- The users, in the order of their numbers. The last one is who everything is done for. -/
def users : List User := [
  ⟨"root", 0, 0, "root", "/root", "/bin/bash"⟩,
  ⟨"daemon", 1, 1, "daemon", "/usr/sbin", noLogin⟩,
  ⟨"bin", 2, 2, "bin", "/bin", noLogin⟩,
  ⟨"sys", 3, 3, "sys", "/dev", noLogin⟩,
  ⟨"sync", 4, 65534, "sync", "/bin", "/bin/sync"⟩,
  ⟨"games", 5, 60, "games", "/usr/games", noLogin⟩,
  ⟨"man", 6, 12, "man", "/var/cache/man", noLogin⟩,
  ⟨"lp", 7, 7, "lp", "/var/spool/lpd", noLogin⟩,
  ⟨"mail", 8, 8, "mail", "/var/mail", noLogin⟩,
  ⟨"news", 9, 9, "news", "/var/spool/news", noLogin⟩,
  ⟨"uucp", 10, 10, "uucp", "/var/spool/uucp", noLogin⟩,
  ⟨"proxy", 13, 13, "proxy", "/bin", noLogin⟩,
  ⟨"www-data", 33, 33, "www-data", "/var/www", noLogin⟩,
  ⟨"backup", 34, 34, "backup", "/var/backups", noLogin⟩,
  ⟨"list", 38, 38, "Mailing List Manager", "/var/list", noLogin⟩,
  ⟨"irc", 39, 39, "ircd", "/run/ircd", noLogin⟩,
  ⟨"_apt", 42, 65534, "", "/nonexistent", noLogin⟩,
  ⟨"nobody", 65534, 65534, "nobody", "/nonexistent", noLogin⟩]

def groups : List (String × Nat) := [
  ("root", 0), ("daemon", 1), ("bin", 2), ("sys", 3), ("adm", 4), ("tty", 5), ("disk", 6),
  ("lp", 7), ("mail", 8), ("news", 9), ("uucp", 10), ("man", 12), ("proxy", 13), ("kmem", 15),
  ("dialout", 20), ("fax", 21), ("voice", 22), ("cdrom", 24), ("floppy", 25), ("tape", 26),
  ("sudo", 27), ("audio", 29), ("dip", 30), ("www-data", 33), ("backup", 34), ("operator", 37),
  ("list", 38), ("irc", 39), ("src", 40), ("shadow", 42), ("utmp", 43), ("video", 44),
  ("sasl", 45), ("plugdev", 46), ("staff", 50), ("games", 60), ("users", 100),
  ("nogroup", 65534)]

def fieldLine (fields : List String) : String := String.intercalate ":" fields ++ "\n"

def User.line (user : User) : String :=
  fieldLine [user.name, "x", toString user.number, toString user.group, user.remark, user.home,
    user.shell]

def usersText : String := String.join (users.map User.line)

def groupsText : String :=
  String.join (groups.map fun (name, number) => fieldLine [name, "x", toString number, ""])

def userNamed? (name : String) : Option User := users.find? (·.name = name)

def groupNamed? (name : String) : Option Nat := groups.lookup name

def groupNumbered? (number : Nat) : Option String := (groups.find? (·.2 = number)).map (·.1)

end BatchLaunch.Host
