import DescriptorReaper.Utf8

/-!
The users that every system has, and the file that lists them.
-/

namespace DescriptorReaper

structure Account where
  name : String
  number : Nat
  group : Nat
  description : String
  home : String
  program : String := "/usr/sbin/nologin"

namespace Account

def all : List Account :=
  [⟨"root", 0, 0, "root", "/root", "/bin/bash"⟩,
   { name := "daemon", number := 1, group := 1, description := "daemon", home := "/usr/sbin" },
   { name := "bin", number := 2, group := 2, description := "bin", home := "/bin" },
   { name := "sys", number := 3, group := 3, description := "sys", home := "/dev" },
   ⟨"sync", 4, 65534, "sync", "/bin", "/bin/sync"⟩,
   { name := "games", number := 5, group := 60, description := "games", home := "/usr/games" },
   { name := "man", number := 6, group := 12, description := "man", home := "/var/cache/man" },
   { name := "lp", number := 7, group := 7, description := "lp", home := "/var/spool/lpd" },
   { name := "mail", number := 8, group := 8, description := "mail", home := "/var/mail" },
   { name := "news", number := 9, group := 9, description := "news", home := "/var/spool/news" },
   { name := "uucp", number := 10, group := 10, description := "uucp", home := "/var/spool/uucp" },
   { name := "proxy", number := 13, group := 13, description := "proxy", home := "/bin" },
   { name := "www-data", number := 33, group := 33, description := "www-data", home := "/var/www" },
   { name := "backup", number := 34, group := 34, description := "backup", home := "/var/backups" },
   { name := "list", number := 38, group := 38, description := "Mailing List Manager",
     home := "/var/list" },
   { name := "irc", number := 39, group := 39, description := "ircd", home := "/run/ircd" },
   { name := "_apt", number := 42, group := 65534, description := "", home := "/nonexistent" },
   { name := "nobody", number := 65534, group := 65534, description := "nobody",
     home := "/nonexistent" }]

def line (account : Account) : String :=
  -- The password is kept elsewhere.
  let parts := [account.name, "x", toString account.number, toString account.group,
    account.description, account.home, account.program]
  String.intercalate ":" parts ++ "\n"

def file : Bytes := Utf8.encode (String.join (all.map line))

def home? (name : String) : Option String := (all.find? (·.name = name)).map home

end Account

end DescriptorReaper
