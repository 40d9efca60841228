import PipeShell.Fault

/-!
# Notices

Notices: what the shell writes to its log while it works. Each says what happened; its level and its
wording are functions of that.
-/

namespace PipeShell
open Text (quoted quotedList)

abbrev Pid := Int

inductive Level where
  | error | warn | info | debug | trace
deriving DecidableEq, Repr, Inhabited

namespace Level

def rank : Level → Nat
  | error => 1
  | warn => 2
  | info => 3
  | debug => 4
  | trace => 5

def label : Level → String
  | error => "ERROR"
  | warn => "WARN"
  | info => "INFO"
  | debug => "DEBUG"
  | trace => "TRACE"

end Level

inductive Phase where
  | assembled | launching | running | waited | collected
deriving DecidableEq, Repr

def Phase.label : Phase → String
  | assembled => "Assembled"
  | launching => "Launching"
  | running => "Running"
  | waited => "Waited"
  | collected => "Collected"

inductive Notice where
  | expanded (name value : String)
  | inputIgnored (path : String)
  | outputIgnored (path : String)
  | wired (stages pipes : Nat)
  | phase (before after : Phase)
  | builtinRuns (kind : Kind) (args : List String)
  | directoryEntered (path : String) (lost : Option SystemError)
  | directoryLost (cause : SystemError)
  | directoryUnreadable (path : String) (cause : SystemError)
  | metadataUnreadable (cause : SystemError)
  | processStarted (pid : Pid) (program : String)
  | launchFailed (cause : Fault)
  | waitFailed (pid : Pid) (cause : Fault)
  | jobAdded (index : Nat) (pids : List Pid) (command : String)
  | reapFailed (pid : Pid) (cause : Fault)
  | lineFailed (cause : Fault)
  | historyLoaded
  | historyMissing (path : String) (cause : SystemError)
  | historySaved
  | historyUnsaved (cause : SystemError)
  | historyGarbled (line : String)
  | shellStarts
  | shellReady
  | endOfInput
  | inputFailed (cause : SystemError)
  | shellEnds
  | levelChosen (label : String)
  | configured (directory : String)
deriving DecidableEq, Repr

namespace Notice

def level : Notice → Level
  | inputIgnored _ | outputIgnored _ | launchFailed _ | historyMissing _ _ | historyGarbled _
  | endOfInput => .warn
  | directoryLost _ | directoryUnreadable _ _ | metadataUnreadable _ | waitFailed _ _
  | reapFailed _ _ | historyUnsaved _ | inputFailed _ => .error
  | _ => .debug

def source : Notice → String
  | historyGarbled _ => "history"
  | _ => "psh"

def pidList (pids : List Pid) : String :=
  "[" ++ ", ".intercalate (pids.map fun pid => "Pid(" ++ toString pid ++ ")") ++ "]"

def message : Notice → String
  | expanded name value => "变量替换: $" ++ name ++ " -> " ++ quoted value
  | inputIgnored path => "忽略中间阶段的输入重定向: " ++ path
  | outputIgnored path => "忽略中间阶段的输出重定向: " ++ path
  | wired stages pipes =>
    "管道连接完成: " ++ toString stages ++ " 个阶段, " ++ toString pipes ++ " 个管道"
  | phase before after => "管道状态: " ++ before.label ++ " -> " ++ after.label
  | builtinRuns kind args => "执行内建命令: " ++ kind.keyword ++ " " ++ quotedList args
  | directoryEntered path _ => "当前目录: " ++ path
  | directoryLost cause => "psh: env current_dir error: " ++ cause.message
  | directoryUnreadable path cause => "psh: fs read_dir error: " ++ path ++ ": " ++ cause.message
  | metadataUnreadable cause => "psh: metadata error: " ++ cause.dump
  | processStarted pid program => "已创建子进程 " ++ toString pid ++ " : " ++ program
  | launchFailed cause => "启动阶段失败: " ++ cause.message
  | waitFailed pid cause => "等待子进程 " ++ toString pid ++ " 失败: " ++ cause.message
  | jobAdded index pids command =>
    "后台任务 [" ++ toString index ++ "] " ++ pidList pids ++ ": " ++ command
  | reapFailed pid cause => "回收后台进程 " ++ toString pid ++ " 失败: " ++ cause.message
  | lineFailed cause => "命令失败: " ++ cause.dump
  | historyLoaded => "历史记录加载成功"
  | historyMissing path cause => "无法加载历史记录: " ++ path ++ " " ++ cause.message
  | historySaved => "历史记录保存成功"
  | historyUnsaved cause => "保存历史记录失败: " ++ cause.message
  | historyGarbled line => "bad escaped line: " ++ line
  | shellStarts => "初始化 psh..."
  | shellReady => "psh 准备就绪..."
  | endOfInput => "接收到 EOF 信号，退出 psh..."
  | inputFailed cause => "发生错误: " ++ cause.message
  | shellEnds => "退出 psh..."
  | levelChosen label => "日志级别设置为: " ++ label
  | configured directory => "配置加载成功 " ++ directory

/-- The notices to be written in place of one: that a folder has lost its name stands before the
notice that it was entered. -/
def spelledOut : Notice → List Notice
  | directoryEntered path (some cause) => [directoryLost cause, directoryEntered path none]
  | n => [n]

def record (n : Notice) : String := n.level.label ++ " " ++ n.message

def records (threshold : Level) (notices : List Notice) : List String :=
  ((notices.filter fun n => n.level.rank ≤ threshold.rank).flatMap spelledOut).map record

end Notice
end PipeShell
